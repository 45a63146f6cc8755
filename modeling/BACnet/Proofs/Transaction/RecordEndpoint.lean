import BACnet.Proofs.Transaction.Orderly
import BACnet.Proofs.Transaction.Records

/-!
# Endpoints that keep records

A device may keep its transactions field by field (`TransactionRecords`). A record by itself may be
over, lack a window that its state needs, or have no timer. None of this happens: the device does
the same as one whose transactions are in one (`Endpoint.recorded_run`), and so its records are as
they should be in every state that it can reach (`RecordEndpoint.orderly_run`).
-/

namespace BACnet

/-- The records are those of the transactions. -/
structure Transactions.RecordedBy (transactions : Transactions) (records : TransactionRecords) :
    Prop where
  config : records.config = transactions.config
  invokeIds : records.invokeIds = transactions.invokeIds
  stored : ∀ key, records.stored.find? key = (transactions.live.find? key).map fun live =>
    live.transaction.record transactions.config key.invokeId (some live.timer)

/-- The same is done on records, and they are again those of the transactions. -/
structure TransactionStep.RecordedBy (step : TransactionStep)
    (records : TransactionRecordsStep) : Prop where
  actions : records.actions = step.actions
  timers : records.timers = step.timers
  recorded : step.transactions.RecordedBy records.records

/-- An answer of the application is refused with the same error, or the same is done. -/
inductive AnsweredAlike : Except TransactionError TransactionStep →
    Except TransactionError TransactionRecordsStep → Prop where
  | error (error : TransactionError) : AnsweredAlike (.error error) (.error error)
  | ok {step : TransactionStep} {records : TransactionRecordsStep}
    (recorded : step.RecordedBy records) : AnsweredAlike (.ok step) (.ok records)

namespace Transactions

variable {transactions : Transactions} {records : TransactionRecords}
  {timers : TimerQueue TimerEvent} {now : Nat} {key : TransactionKey}

namespace RecordedBy

theorem insert (recorded : transactions.RecordedBy records) (key : TransactionKey)
    (transaction : Transaction) (timer : TimerHandle) :
    RecordedBy { transactions with live := transactions.live.insert key ⟨transaction, timer⟩ }
      (records.store key
        (transaction.record transactions.config key.invokeId (some timer))) := by
  refine ⟨recorded.config, recorded.invokeIds, ?_⟩
  intro other
  show (records.stored.insert key _).find? other = _
  rw [Table.find?_insert, Table.find?_insert]
  split
  · next same =>
    subst same
    rfl
  · exact recorded.stored other

theorem erase (recorded : transactions.RecordedBy records) (key : TransactionKey)
    (record : TransactionRecord) :
    RecordedBy { transactions with live := transactions.live.erase key }
      { records with stored := (records.stored.insert key record).erase key } := by
  refine ⟨recorded.config, recorded.invokeIds, ?_⟩
  intro other
  show ((records.stored.insert key record).erase key).find? other = _
  rw [Table.find?_erase, Table.find?_erase, Table.find?_insert]
  split
  · rfl
  · exact recorded.stored other

theorem erase_absent (recorded : transactions.RecordedBy records)
    (absent : transactions.live.find? key = none) :
    RecordedBy { transactions with live := transactions.live.erase key } records := by
  refine ⟨recorded.config, recorded.invokeIds, ?_⟩
  intro other
  show records.stored.find? other = ((transactions.live.erase key).find? other).map _
  rw [Table.find?_erase, recorded.stored]
  split
  · next same => rw [← same, absent]
  · rfl

/-- A record that is stored again is the same one. -/
theorem store_same (recorded : transactions.RecordedBy records) {record : TransactionRecord}
    (found : records.stored.find? key = some record) :
    transactions.RecordedBy (records.store key record) := by
  refine ⟨recorded.config, recorded.invokeIds, ?_⟩
  intro other
  show (records.stored.insert key record).find? other = _
  rw [Table.find?_insert]
  split
  · next same =>
    subst same
    rw [← found]
    exact recorded.stored key
  · exact recorded.stored other

theorem unchanged (recorded : transactions.RecordedBy records) :
    (transactions.unchanged timers).RecordedBy (records.unchanged timers) :=
  ⟨rfl, rfl, recorded⟩

/-- A transaction reacts, and the same has been done with its record. The timer of the record is the
one of the transaction, or has just been taken out of the queue. -/
theorem settle (recorded : transactions.RecordedBy records) {record : TransactionRecord}
    {result : RecordWork TransactionRecord × RecordStep} {reaction : Reaction Transaction}
    (follows : Transaction.Follows ⟨key, transactions.config, now⟩ ⟨record, timers, []⟩ result
      reaction)
    (cancels : timers.cancel? record.timer? = timers.cancel? (transactions.timer? key))
    (stands : reaction.progress = .keep → records.stored.find? key = some record) :
    (transactions.react timers now key reaction).RecordedBy (records.settle key result) := by
  obtain ⟨work, step⟩ := result
  cases follows with
  | keep actions same rest goesOn =>
    cases goesOn
    cases same
    exact ⟨actions, rest, recorded.store_same (stands rfl)⟩
  | finish actions timer rest ends =>
    cases ends
    -- The record is stored once more and then removed, with the timer that it has had before.
    have stored : (records.store key work.record).stored.find? key = some work.record := by
      show (records.stored.insert key work.record).find? key = _
      rw [Table.find?_insert, if_pos rfl]
    have finished : (records.store key work.record).finish work.timers key =
        ({ records with stored := (records.stored.insert key work.record).erase key },
          work.timers.cancel? work.record.timer?) := by
      rw [TransactionRecords.finish, stored]
      rfl
    unfold TransactionRecords.settle
    dsimp only
    rw [finished]
    refine ⟨actions, ?_, recorded.erase key work.record⟩
    show work.timers.cancel? work.record.timer? = _
    rw [timer, rest]
    exact cancels
  | restart actions next rest goesOn =>
    cases goesOn
    rw [RecordContext.restart] at next rest
    dsimp only at next rest
    rw [cancels] at next rest
    refine ⟨actions, rest, ?_⟩
    show RecordedBy _ (records.store key work.record)
    rw [next]
    exact recorded.insert key _ _

theorem find?_stored (recorded : transactions.RecordedBy records) {live : LiveTransaction}
    (found : transactions.live.find? key = some live) :
    records.stored.find? key =
      some (live.transaction.record transactions.config key.invokeId (some live.timer)) := by
  rw [recorded.stored, found, Option.map_some]

/-- A transaction reacts while its timer runs. -/
theorem settle_live (recorded : transactions.RecordedBy records) {live : LiveTransaction}
    (found : transactions.live.find? key = some live)
    {result : RecordWork TransactionRecord × RecordStep} {reaction : Reaction Transaction}
    (follows : Transaction.Follows ⟨key, transactions.config, now⟩
      ⟨live.transaction.record transactions.config key.invokeId (some live.timer), timers, []⟩
      result reaction) :
    (transactions.react timers now key reaction).RecordedBy (records.settle key result) := by
  refine recorded.settle follows ?_ fun _ => recorded.find?_stored found
  rw [Transaction.timer?_record, timer?_of_live found]

theorem contains_stored (recorded : transactions.RecordedBy records) (key : TransactionKey) :
    records.stored.contains key = transactions.contains key := by
  rw [Table.contains, recorded.stored, Option.isSome_map]
  rfl

/-! ## What a device does -/

/-- A request that asks for a new timer does not keep the old one. -/
theorem start_ne_keep (config : Config) (invokeId service : UInt8) (parameters : Octets)
    (plan : RequestPlan) :
    (ClientTransaction.start config invokeId service parameters plan).progress ≠ .keep := by
  unfold ClientTransaction.start ClientTransaction.transmit
  dsimp only
  split
  · nofun
  · nofun

theorem request (recorded : transactions.RecordedBy records) (timers : TimerQueue TimerEvent)
    (now : Nat) (peer : Address) (service : UInt8) (parameters : Octets) (known : Option Peer) :
    (records.request timers now peer service parameters known).1 =
        (transactions.request timers now peer service parameters known).1 ∧
      (transactions.request timers now peer service parameters known).2.RecordedBy
        (records.request timers now peer service parameters known).2 := by
  unfold TransactionRecords.request Transactions.request
  rw [recorded.config, recorded.invokeIds]
  simp only [recorded.contains_stored]
  cases RequestPlan.new transactions.config parameters.length known with
  | error error => exact ⟨rfl, recorded.unchanged⟩
  | ok plan =>
    dsimp only
    generalize allocated : transactions.invokeIds.allocate peer
      (fun id => transactions.contains (.client peer id)) = result
    obtain ⟨id, invokeIds⟩ := result
    have again : RecordedBy { transactions with invokeIds }
        ⟨transactions.config, records.stored, invokeIds⟩ := ⟨rfl, rfl, recorded.stored⟩
    cases id with
    | none => exact ⟨rfl, again.unchanged⟩
    | some id =>
      have free : transactions.contains (.client peer id) = false :=
        InvokeIds.not_inUse_of_allocate (congrArg Prod.fst allocated)
      obtain ⟨record, untimed, follows⟩ := ClientRecord.follows_start
        ⟨.client peer id, transactions.config, now⟩ timers service parameters plan
      refine ⟨rfl, again.settle (Transaction.follows_client follows) ?_ ?_⟩
      · have absent := Option.map_eq_none_iff.mp (Transactions.find?_eq_none free)
        show timers.cancel? record.timer =
          timers.cancel? ((transactions.live.find? (.client peer id)).map _)
        rw [untimed, absent, Option.map_none]
      · intro keeps
        exact absurd keeps (Progress.map_ne_keep (start_ne_keep _ _ _ _ _))

/-- A request of another device is taken, and the same has been done on the records. -/
theorem start (recorded : transactions.RecordedBy records)
    (absent : transactions.live.find? key = none) {work : RecordWork (Option ServerRecord)}
    {reaction : Reaction ServerTransaction}
    (follows : RecordWork.Follows ⟨key, transactions.config, now⟩
      (fun server timer => some (ServerTransaction.record server timer))
      (·.bind ServerRecord.timer) ⟨none, timers, []⟩ (ServerRecord.kept work) reaction) :
    (transactions.react timers now key (reaction.map .server)).RecordedBy
      (match work.record with
        | none => ⟨work.actions, records, work.timers⟩
        | some record => ⟨work.actions, records.store key (.server record), work.timers⟩) := by
  have untimed : transactions.timer? key = none := by
    rw [Transactions.timer?, absent, Option.map_none]
  obtain ⟨kept, left, done⟩ := work
  cases follows with
  | keep actions record timers step =>
    cases record
    cases step
  | finish actions timer timers step =>
    cases kept with
    | some record => cases step
    | none =>
      simp only [react, Reaction.map, Progress.map, proceed, untimed]
      exact ⟨actions, timers, recorded.erase_absent absent⟩
  | restart actions record timers step =>
    cases record
    simp only [react, Reaction.map, Progress.map, proceed, untimed]
    exact ⟨actions, timers, recorded.insert key _ _⟩

theorem receive (recorded : transactions.RecordedBy records) {config : Config}
    (sound : transactions.Sound config) (timers : TimerQueue TimerEvent) (now : Nat)
    (peer : Address) (apdu : Apdu) :
    (transactions.receive timers now peer apdu).RecordedBy
      (records.receive timers now peer apdu) := by
  unfold TransactionRecords.receive Transactions.receive
  cases named : Transactions.keyOf? peer apdu with
  | none => exact recorded.unchanged
  | some key =>
    dsimp only
    cases found : transactions.live.find? key with
    | some live =>
      have stands := find?_of_live found
      rw [recorded.find?_stored found, stands, recorded.config]
      have sided := (sound.fits key _ stands).side_eq
      exact recorded.settle_live found (Transaction.follows_onApdu sided _ apdu)
    | none =>
      rw [recorded.stored, found, find?, found, recorded.config]
      cases apdu with
      | confirmedRequest request =>
        cases named
        exact recorded.start found (ServerRecord.follows_start rfl rfl)
      | unconfirmedRequest _ _ | simpleAck _ _ | complexAck _ | segmentAck _ | error _ _ _ _
      | reject _ _ | abort _ _ _ => exact recorded.unchanged

theorem respond (recorded : transactions.RecordedBy records) (timers : TimerQueue TimerEvent)
    (now : Nat) (peer : Address) (invokeId : UInt8) (outcome : Outcome) :
    AnsweredAlike (transactions.respond timers now peer invokeId outcome)
      (records.respond timers now peer invokeId outcome) := by
  unfold TransactionRecords.respond Transactions.respond
  dsimp only
  cases found : transactions.live.find? (.server peer invokeId) with
  | none =>
    rw [recorded.stored, find?, found]
    exact .error _
  | some live =>
    obtain ⟨transaction, timer⟩ := live
    rw [recorded.find?_stored found, find?, found, recorded.config]
    cases transaction with
    | client client => exact .error _
    | server server =>
      dsimp only [Option.map_some, Transaction.record]
      have state := server.state_record_eq_processing_iff (some timer)
      by_cases working : server.phase = .processing
      · rw [if_pos working, if_neg (not_not_intro (state.mpr working))]
        exact .ok (recorded.settle_live found (Transaction.follows_server
          (ServerRecord.follows_respond rfl working outcome)))
      · rw [if_neg working, if_pos (mt state.mp working)]
        exact .error _

theorem abort (recorded : transactions.RecordedBy records) {config : Config}
    (sound : transactions.Sound config) (timers : TimerQueue TimerEvent) (now : Nat)
    (key : TransactionKey) (reason : AbortReason) :
    (transactions.abort timers now key reason).RecordedBy
      (records.abort timers now key reason) := by
  unfold TransactionRecords.abort Transactions.abort
  cases found : transactions.live.find? key with
  | none =>
    rw [recorded.stored, found, find?, found]
    exact recorded.unchanged
  | some live =>
    have stands := find?_of_live found
    rw [recorded.find?_stored found, stands, recorded.config]
    have sided := (sound.fits key _ stands).side_eq
    -- On either side giving up is the end, whatever the step of the side says.
    have follows := recorded.settle_live found
      (@Transaction.follows_abort ⟨key, transactions.config, now⟩ timers _ sided _ reason)
    obtain ⟨transaction, timer⟩ := live
    cases transaction <;> exact follows

/-- A timer that has been taken out of the queue is no longer there to be cancelled. -/
theorem timeout (recorded : transactions.RecordedBy records) {config : Config}
    (sound : transactions.Sound config) {timers rest : TimerQueue TimerEvent} (now : Nat)
    (wellFormed : timers.WellFormed) {handle : TimerHandle} {key : TransactionKey}
    (popped : timers.pop? now = some (handle, .transaction key, rest)) :
    (transactions.timeout rest now handle key).RecordedBy
      (records.timeout rest now handle key) := by
  unfold TransactionRecords.timeout Transactions.timeout
  cases found : transactions.live.find? key with
  | none =>
    rw [recorded.stored, found]
    exact recorded.unchanged
  | some live =>
    rw [recorded.find?_stored found, recorded.config]
    dsimp only
    rw [Transaction.timer?_record]
    by_cases own : live.timer = handle
    · subst own
      rw [if_pos rfl, if_neg (not_not_intro rfl)]
      have sided := (sound.fits key _ (find?_of_live found)).side_eq
      refine recorded.settle (Transaction.follows_onTimeout sided _) ?_ ?_
      · have gone : rest.cancel live.timer = rest := by
          rw [← wellFormed.cancel_of_pop? popped, TimerQueue.cancel_cancel]
        rw [timer?_of_live found]
        show rest.cancel? _ = rest.cancel live.timer
        rw [gone]
        cases live.transaction <;> rfl
      · intro keeps
        exact absurd keeps (Transaction.timeout_ne_keep _)
    · rw [if_neg own, if_pos fun same => own (Option.some.inj same)]
      exact recorded.unchanged

end RecordedBy

end Transactions

/-! ## Endpoints -/

/-- The records of a device and its timers. -/
structure RecordEndpoint where
  records : TransactionRecords
  timers : TimerQueue TimerEvent
  deriving DecidableEq, Repr

/-- What has come of an event. -/
structure RecordEndpointStep where
  /-- The name of the transaction if a request has been sent. -/
  granted : Option TransactionKey
  actions : List TransactionAction
  endpoint : RecordEndpoint
  deriving DecidableEq, Repr

namespace RecordEndpoint

/-- A device without transactions and timers. -/
def new (config : Config) : RecordEndpoint := ⟨.new config, .empty⟩

/-- What the transactions make of it. -/
def took (step : TransactionRecordsStep) : RecordEndpointStep :=
  ⟨none, step.actions, ⟨step.records, step.timers⟩⟩

/-- Something other than a transaction has changed the timers. -/
def waits (endpoint : RecordEndpoint) (timers : TimerQueue TimerEvent) : RecordEndpointStep :=
  ⟨none, [], { endpoint with timers }⟩

/-- What comes of an event. -/
def step (endpoint : RecordEndpoint) (now : Nat) : EndpointEvent → RecordEndpointStep
  | .request peer service parameters known =>
    let (result, step) :=
      endpoint.records.request endpoint.timers now peer service parameters known
    { took step with granted := result.toOption.map (.client peer) }
  | .receive peer apdu => took (endpoint.records.receive endpoint.timers now peer apdu)
  | .respond peer invokeId outcome =>
    match endpoint.records.respond endpoint.timers now peer invokeId outcome with
    | .ok step => took step
    | .error _ => endpoint.waits endpoint.timers
  | .abort key reason => took (endpoint.records.abort endpoint.timers now key reason)
  | .expire =>
    match endpoint.timers.pop? now with
    | none => endpoint.waits endpoint.timers
    | some (handle, .transaction key, timers) =>
      took (endpoint.records.timeout timers now handle key)
    | some (_, _, timers) => endpoint.waits timers
  | .schedule deadline event =>
    endpoint.waits <|
      if event.isTransaction then endpoint.timers else (endpoint.timers.schedule deadline event).2
  | .cancel handle =>
    endpoint.waits <|
      if (endpoint.timers.event? handle).any (·.isTransaction) then endpoint.timers
      else endpoint.timers.cancel handle

/-- The endpoint after events one after the other. -/
def run (endpoint : RecordEndpoint) : List (Nat × EndpointEvent) → RecordEndpoint
  | [] => endpoint
  | (now, event) :: rest => (endpoint.step now event).endpoint.run rest

/-- What comes of events one after the other, each at its time. -/
def steps (endpoint : RecordEndpoint) : List (Nat × EndpointEvent) → List RecordEndpointStep
  | [] => []
  | (now, event) :: rest =>
    endpoint.step now event :: (endpoint.step now event).endpoint.steps rest

end RecordEndpoint

namespace Endpoint

/-- The records and timers are those of the endpoint. -/
structure RecordedBy (endpoint : Endpoint) (records : RecordEndpoint) : Prop where
  recorded : endpoint.transactions.RecordedBy records.records
  timers : records.timers = endpoint.timers

/-- The same has come of an event. -/
structure StepRecordedBy (step : EndpointStep) (records : RecordEndpointStep) : Prop where
  granted : records.granted = step.granted
  actions : records.actions = step.actions
  endpoint : step.endpoint.RecordedBy records.endpoint

theorem recordedBy_new (config : Config) : (new config).RecordedBy (.new config) :=
  ⟨⟨rfl, rfl, fun _ => rfl⟩, rfl⟩

theorem stepRecordedBy_took {step : TransactionStep} {records : TransactionRecordsStep}
    (recorded : step.RecordedBy records) :
    StepRecordedBy (took step) (RecordEndpoint.took records) :=
  ⟨rfl, recorded.actions, recorded.recorded, recorded.timers⟩

/-- The same comes of every event. -/
theorem RecordedBy.step {config : Config} {endpoint : Endpoint} {records : RecordEndpoint}
    (recorded : endpoint.RecordedBy records) (invariant : endpoint.Invariant config) (now : Nat)
    (event : EndpointEvent) :
    StepRecordedBy (endpoint.step now event) (records.step now event) := by
  obtain ⟨transactions, timers⟩ := endpoint
  obtain ⟨records, own⟩ := records
  obtain ⟨recorded, rfl⟩ := recorded
  have waits (rest : TimerQueue TimerEvent) :
      StepRecordedBy (Endpoint.waits ⟨transactions, own⟩ rest)
        (RecordEndpoint.waits ⟨records, own⟩ rest) := ⟨rfl, rfl, recorded, rfl⟩
  have sound := invariant.sound
  cases event with
  | request peer service parameters known =>
    obtain ⟨result, same⟩ := recorded.request own now peer service parameters known
    exact ⟨congrArg (fun result => result.toOption.map (TransactionKey.client peer)) result,
      same.actions, same.recorded, same.timers⟩
  | receive peer apdu => exact stepRecordedBy_took (recorded.receive sound own now peer apdu)
  | respond peer invokeId outcome =>
    have alike := recorded.respond own now peer invokeId outcome
    unfold Endpoint.step RecordEndpoint.step
    dsimp only
    revert alike
    generalize transactions.respond own now peer invokeId outcome = answer
    generalize records.respond own now peer invokeId outcome = recordAnswer
    intro alike
    cases alike with
    | error error => exact waits own
    | ok same => exact stepRecordedBy_took same
  | abort key reason => exact stepRecordedBy_took (recorded.abort sound own now key reason)
  | expire =>
    unfold Endpoint.step RecordEndpoint.step
    dsimp only
    cases popped : own.pop? now with
    | none => exact waits own
    | some first =>
      obtain ⟨handle, event, rest⟩ := first
      cases event with
      | transaction key =>
        exact stepRecordedBy_took (recorded.timeout sound now invariant.wellFormed popped)
      | routeResolution network => exact waits rest
      | communicationControl => exact waits rest
  | schedule deadline event => exact waits _
  | cancel handle => exact waits _

/-- A device that keeps records does the same as one that keeps its transactions in one, whatever
happens, -/
theorem RecordedBy.steps {config : Config} {endpoint : Endpoint} {records : RecordEndpoint}
    (recorded : endpoint.RecordedBy records) (invariant : endpoint.Invariant config)
    (events : List (Nat × EndpointEvent)) :
    List.Forall₂ StepRecordedBy (endpoint.steps events) (records.steps events) := by
  induction events generalizing endpoint records with
  | nil => exact .nil
  | cons first rest ih =>
    obtain ⟨now, event⟩ := first
    have step := recorded.step invariant now event
    have next := invariant_of_effect (effect_step endpoint now event) invariant
    exact .cons step (ih step.endpoint next)

/-- and its records are those of the transactions then. -/
theorem RecordedBy.run {config : Config} {endpoint : Endpoint} {records : RecordEndpoint}
    (recorded : endpoint.RecordedBy records) (invariant : endpoint.Invariant config)
    (events : List (Nat × EndpointEvent)) :
    (endpoint.run events).RecordedBy (records.run events) := by
  induction events generalizing endpoint records with
  | nil => exact recorded
  | cons first rest ih =>
    obtain ⟨now, event⟩ := first
    exact ih (recorded.step invariant now event).endpoint
      (invariant_of_effect (effect_step endpoint now event) invariant)

/-- Whatever happens, a device that keeps records does the same as one that keeps its transactions
in one, and its records are those of the transactions. -/
theorem recorded_run (config : Config) (events : List (Nat × EndpointEvent)) :
    List.Forall₂ StepRecordedBy ((new config).steps events)
        ((RecordEndpoint.new config).steps events) ∧
      ((new config).run events).RecordedBy ((RecordEndpoint.new config).run events) :=
  ⟨(recordedBy_new config).steps (invariant_new config) events,
    (recordedBy_new config).run (invariant_new config) events⟩

end Endpoint

/-! ## Order -/

namespace TransactionRecord

/-- The side of the record. -/
def side : TransactionRecord → Side
  | client _ => .client
  | server _ => .server

/-- Whether the transaction of the record is over. -/
def isOver : TransactionRecord → Bool
  | client record => record.state = .complete ∨ record.state = .aborted
  | server record => record.state = .complete ∨ record.state = .aborted

/-- Whether the record is in the state in which segments are collected. -/
def isCollecting : TransactionRecord → Bool
  | client record => record.state = .segmentedReceive
  | server record => record.state = .segmentedReceive

/-- The segments that have been collected, if there is a window for them. -/
def receive? : TransactionRecord → Option ReceiveWindow
  | client record => record.receive
  | server record => record.receive

/-- A record is kept under a name as it should be. -/
structure Orderly (config : Config) (timers : TimerQueue TimerEvent) (key : TransactionKey)
    (record : TransactionRecord) : Prop where
  side_eq : record.side = key.side
  isOver_eq : record.isOver = false
  /-- It has a timer, which is the only one for it and is for nothing else. -/
  timed : ∃ handle, record.timer? = some handle ∧
    timers.handlesOf (.transaction key) = [handle] ∧
    timers.event? handle = some (.transaction key)
  collects : record.isCollecting = true ↔ record.receive?.isSome
  sends : ∀ answer, record = .server answer →
    (answer.state = .segmentedResponse ↔ answer.send.isSome)
  within : ∀ window, record.receive? = some window → window.Within config

end TransactionRecord

/-- All records are kept as they should be, and there are no timers of others. -/
structure RecordEndpoint.Orderly (config : Config) (endpoint : RecordEndpoint) : Prop where
  stored : ∀ key record, endpoint.records.stored.find? key = some record →
    record.Orderly config endpoint.timers key
  timed : ∀ handle key, (handle, TimerEvent.transaction key) ∈ endpoint.timers.entries →
    ∃ record, endpoint.records.stored.find? key = some record ∧ record.timer? = some handle

namespace Transaction

variable (transaction : Transaction) (config : Config) (invokeId : UInt8)
  (timer : Option TimerHandle)

theorem side_record : (transaction.record config invokeId timer).side = transaction.side := by
  cases transaction <;> rfl

theorem receive?_record :
    (transaction.record config invokeId timer).receive? = transaction.receiveWindow? := by
  cases transaction <;> rfl

theorem isOver_record : (transaction.record config invokeId timer).isOver = false := by
  obtain ⟨⟨_, _, _, phase⟩⟩ | ⟨⟨_, _, _, _, phase⟩⟩ := transaction
  · cases phase <;> rfl
  · cases phase <;> rfl

/-- There is a window for segments just in the state in which they are collected. -/
theorem isCollecting_record : (transaction.record config invokeId timer).isCollecting =
    (transaction.record config invokeId timer).receive?.isSome := by
  obtain ⟨⟨_, _, _, phase⟩⟩ | ⟨⟨_, _, _, _, phase⟩⟩ := transaction
  · cases phase <;> rfl
  · cases phase <;> rfl

end Transaction

/-- There are segments to send just in the state in which an answer is sent in segments. -/
theorem ServerTransaction.state_record_eq_segmentedResponse_iff (server : ServerTransaction)
    (timer : Option TimerHandle) :
    (server.record timer).state = .segmentedResponse ↔ (server.record timer).send.isSome := by
  obtain ⟨_, _, _, _, phase⟩ := server
  cases phase <;> simp [record, sendWindow?]

theorem LiveTransaction.orderly {config : Config} {endpoint : Endpoint}
    (invariant : endpoint.Invariant config) {key : TransactionKey} {live : LiveTransaction}
    (found : endpoint.transactions.live.find? key = some live) :
    (live.transaction.record config key.invokeId (some live.timer)).Orderly config endpoint.timers
      key := by
  have fits := invariant.sound.fits key _ (Transactions.find?_of_live found)
  refine {
    side_eq := (live.transaction.side_record _ _ _).trans fits.side_eq
    isOver_eq := live.transaction.isOver_record _ _ _
    timed := ⟨live.timer, live.transaction.timer?_record _ _ _, invariant.handlesOf_live found,
      invariant.event?_live found⟩
    collects := by rw [live.transaction.isCollecting_record]
    sends := ?_
    within := ?_ }
  · intro answer served
    obtain ⟨⟨⟩ | server, timer⟩ := live
    · cases served
    · cases served
      exact server.state_record_eq_segmentedResponse_iff _
  · rw [live.transaction.receive?_record]
    exact fits.within

/-- In every state that a device can reach its records and the timers of transactions belong
together one by one, the records stand on the sides that their names tell, none of them is over,
they have the windows that their states need and no others, and what they have collected obeys the
configuration. -/
theorem RecordEndpoint.orderly_run (config : Config) (events : List (Nat × EndpointEvent)) :
    ((new config).run events).Orderly config := by
  have invariant := Endpoint.invariant_run (Endpoint.invariant_new config) events
  obtain ⟨recorded, timers⟩ := (Endpoint.recorded_run config events).2
  refine ⟨?_, ?_⟩
  · intro key record stored
    rw [recorded.stored, Option.map_eq_some_iff] at stored
    obtain ⟨live, found, rfl⟩ := stored
    rw [timers, invariant.sound.config_eq]
    exact LiveTransaction.orderly invariant found
  · intro handle key entered
    rw [timers] at entered
    obtain ⟨live, found, rfl⟩ := invariant.exists_live entered
    exact ⟨_, recorded.find?_stored found, live.transaction.timer?_record _ _ _⟩

/-- Behind the first segment of an answer the record collects segments, and has a window for them
and a new timer. -/
example :
    let config : Config := { Config.standard with segmentation := .both }
    let device := (RecordEndpoint.new config).run
      [(0, .request (.ofMac [7]) 12 [] none),
        (1, .receive (.ofMac [7]) (.complexAck ⟨1, some ⟨0, 1, true⟩, 12, [1]⟩))]
    (device.records.stored.find? (.client (.ofMac [7]) 1)).map (fun record =>
      (record.isCollecting, record.receive?.isSome, record.timer?)) =
        some (true, true, some ⟨1500000001, 1⟩) := by
  decide

end BACnet
