import BACnet.Timer.Event
import BACnet.Timer.Queue
import BACnet.Transaction.Client
import BACnet.Transaction.InvokeId
import BACnet.Transaction.Server

/-!
# Transactions

All exchanges of a device that are not over yet, by their names, and the invoke IDs for new ones.
Each has exactly one timer in the queue of the device: it is scheduled when the transaction starts,
replaced when the transaction goes on, and cancelled when the transaction is over.

* `Transactions.request` starts an exchange.
* `Transactions.receive` takes a message of another device.
* `Transactions.respond` and `Transactions.abort` are the answer and the end that the application
  asks for.
* `Transactions.timeout` tells a transaction that its timer has run out.
-/

namespace BACnet

/-- A transaction on either side. -/
inductive Transaction where
  | client (transaction : ClientTransaction)
  | server (transaction : ServerTransaction)
  deriving DecidableEq, Repr

/-- What a transaction waits for. -/
inductive TransactionState where
  | segmentedRequest
  | awaitingAck
  | segmentedReceive
  | processing
  | segmentedResponse
  deriving DecidableEq, Repr

namespace Transaction

/-- What the transaction waits for. -/
def state : Transaction → TransactionState
  | client ⟨_, _, _, .segmentedRequest⟩ => .segmentedRequest
  | client ⟨_, _, _, .awaitingAck⟩ => .awaitingAck
  | client ⟨_, _, _, .segmentedReceive _⟩ => .segmentedReceive
  | server ⟨_, _, _, _, .segmentedReceive _⟩ => .segmentedReceive
  | server ⟨_, _, _, _, .processing⟩ => .processing
  | server ⟨_, _, _, _, .segmentedResponse _⟩ => .segmentedResponse

/-- What a message means to the transaction. -/
def receive (config : Config) (invokeId : UInt8) (apdu : Apdu) : Transaction → Reaction Transaction
  | client transaction => (transaction.receive config invokeId apdu).map client
  | server transaction => (transaction.receive config invokeId apdu).map server

/-- What the application ends. -/
def abort (invokeId : UInt8) (reason : AbortReason) : Transaction → Reaction Transaction
  | client _ => (ClientTransaction.abort invokeId reason).map client
  | server _ => (ServerTransaction.abort invokeId reason).map server

/-- What happens to the transaction when it has waited long enough. -/
def timeout (config : Config) (invokeId : UInt8) : Transaction → Reaction Transaction
  | client transaction => (transaction.timeout config invokeId).map client
  | server transaction => (transaction.timeout config invokeId).map server

end Transaction

/-- A transaction that is not over yet, with its timer. -/
structure LiveTransaction where
  transaction : Transaction
  timer : TimerHandle
  deriving DecidableEq, Repr

/-- All transactions of a device. -/
structure Transactions where
  config : Config
  live : Table TransactionKey LiveTransaction
  invokeIds : InvokeIds
  deriving DecidableEq, Repr

/-- What the transactions want done, and they and the timers after it. -/
structure TransactionStep where
  actions : List TransactionAction
  transactions : Transactions
  timers : TimerQueue TimerEvent
  deriving DecidableEq, Repr

namespace Transactions

/-- A device without transactions. -/
def new (config : Config) : Transactions := ⟨config, .empty, .new config.invokeIdStart⟩

/-- The transaction with this name. -/
def find? (transactions : Transactions) (key : TransactionKey) : Option Transaction :=
  (transactions.live.find? key).map (·.transaction)

/-- The timer of the transaction with this name. -/
def timer? (transactions : Transactions) (key : TransactionKey) : Option TimerHandle :=
  (transactions.live.find? key).map (·.timer)

/-- Whether there is a transaction with this name. -/
def contains (transactions : Transactions) (key : TransactionKey) : Bool :=
  transactions.live.contains key

/-- What the transaction with this name waits for. -/
def state? (transactions : Transactions) (key : TransactionKey) : Option TransactionState :=
  (transactions.find? key).map (·.state)

/-- The number of transactions. -/
def size (transactions : Transactions) : Nat := transactions.live.size

/-- Whether there are no transactions. -/
def isEmpty (transactions : Transactions) : Bool := transactions.live.isEmpty

/-- Nothing happens. -/
def unchanged (transactions : Transactions) (timers : TimerQueue TimerEvent) : TransactionStep :=
  ⟨[], transactions, timers⟩

/-- Carries on with a transaction as it wants. -/
def proceed (transactions : Transactions) (timers : TimerQueue TimerEvent) (now : Nat)
    (key : TransactionKey) (progress : Progress Transaction) :
    Transactions × TimerQueue TimerEvent :=
  match progress with
  | .keep => (transactions, timers)
  | .finish =>
    ({ transactions with live := transactions.live.erase key },
      timers.cancel? (transactions.timer? key))
  | .restart transaction span =>
    let (timer, timers) :=
      (timers.cancel? (transactions.timer? key)).schedule (now + span) (.transaction key)
    ({ transactions with live := transactions.live.insert key ⟨transaction, timer⟩ }, timers)

/-- Takes the reaction of the transaction with this name. -/
def react (transactions : Transactions) (timers : TimerQueue TimerEvent) (now : Nat)
    (key : TransactionKey) (reaction : Reaction Transaction) : TransactionStep :=
  let (transactions, timers) := transactions.proceed timers now key reaction.progress
  ⟨reaction.effects.map (⟨key.peer, key.invokeId, ·⟩), transactions, timers⟩

/-! ## Requests of this device -/

/-- Asks another device for a service; the request has the invoke ID. A request that cannot be sent
takes none. -/
def request (transactions : Transactions) (timers : TimerQueue TimerEvent) (now : Nat)
    (peer : Address) (service : UInt8) (parameters : Octets) (known : Option Peer) :
    Except TransactionError UInt8 × TransactionStep :=
  match RequestPlan.new transactions.config parameters.length known with
  | .error error => (.error error, transactions.unchanged timers)
  | .ok plan =>
    let inUse (id : UInt8) := transactions.contains (.client peer id)
    let (id, invokeIds) := transactions.invokeIds.allocate peer inUse
    let transactions := { transactions with invokeIds }
    match id with
    | none => (.error (.noInvokeId peer), transactions.unchanged timers)
    | some id =>
      let reaction := ClientTransaction.start transactions.config id service parameters plan
      (.ok id, transactions.react timers now (.client peer id) (reaction.map .client))

/-! ## Messages -/

/-- The name of the transaction that a message belongs to. The acknowledgments of segments and the
aborts tell by a flag which side sent them. -/
def keyOf? (peer : Address) : Apdu → Option TransactionKey
  | .confirmedRequest request => some (.server peer request.invokeId)
  | .unconfirmedRequest _ _ => none
  | .simpleAck invokeId _ => some (.client peer invokeId)
  | .complexAck ack => some (.client peer ack.invokeId)
  | .segmentAck ack =>
    some (if ack.server then .client peer ack.invokeId else .server peer ack.invokeId)
  | .error invokeId _ _ _ => some (.client peer invokeId)
  | .reject invokeId _ => some (.client peer invokeId)
  | .abort server invokeId _ =>
    some (if server then .client peer invokeId else .server peer invokeId)

/-- What a message means that belongs to no transaction: a request starts one. -/
def reactionToNew (config : Config) : Apdu → Reaction Transaction
  | .confirmedRequest request => (ServerTransaction.start config request).map .server
  | _ => .ignore

/-- Takes a message of another device. -/
def receive (transactions : Transactions) (timers : TimerQueue TimerEvent) (now : Nat)
    (peer : Address) (apdu : Apdu) : TransactionStep :=
  match keyOf? peer apdu with
  | none => transactions.unchanged timers
  | some key =>
    transactions.react timers now key <|
      match transactions.find? key with
      | some transaction => transaction.receive transactions.config key.invokeId apdu
      | none => reactionToNew transactions.config apdu

/-! ## The application and time -/

/-- Answers a request on which the application works. -/
def respond (transactions : Transactions) (timers : TimerQueue TimerEvent) (now : Nat)
    (peer : Address) (invokeId : UInt8) (outcome : Outcome) :
    Except TransactionError TransactionStep :=
  let key := TransactionKey.server peer invokeId
  match transactions.find? key with
  | some (.server server) =>
    if server.phase = .processing then
      let reaction := server.respond transactions.config invokeId outcome
      .ok (transactions.react timers now key (reaction.map .server))
    else .error (.unknownTransaction key)
  | _ => .error (.unknownTransaction key)

/-- Ends a transaction, if there is one with this name. -/
def abort (transactions : Transactions) (timers : TimerQueue TimerEvent) (now : Nat)
    (key : TransactionKey) (reason : AbortReason) : TransactionStep :=
  match transactions.find? key with
  | some transaction =>
    transactions.react timers now key (transaction.abort key.invokeId reason)
  | none => transactions.unchanged timers

/-- Tells a transaction that a timer has run out. A timer that is not its own means nothing. -/
def timeout (transactions : Transactions) (timers : TimerQueue TimerEvent) (now : Nat)
    (handle : TimerHandle) (key : TransactionKey) : TransactionStep :=
  match transactions.live.find? key with
  | some live =>
    if live.timer = handle then
      transactions.react timers now key
        (live.transaction.timeout transactions.config key.invokeId)
    else transactions.unchanged timers
  | none => transactions.unchanged timers

end Transactions

end BACnet
