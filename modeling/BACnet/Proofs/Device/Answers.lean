import BACnet.Proofs.Device.Run
import BACnet.Proofs.Routing.Answers
import BACnet.Text.Chart

/-!
# Answers to requests

A request of the application becomes a transaction that is named by the address of the station, and
an answer belongs to the transaction that is named by its source. So it matters that the answer is
handed to the application with the address to which the request was sent
(`Device.answer_finds_request`).
-/

namespace BACnet

/-- The invoke ID of the request that a message of a server answers. -/
def Apdu.answers? : Apdu → Option UInt8
  | simpleAck invokeId _ | error invokeId _ _ _ | reject invokeId _ => some invokeId
  | complexAck answer => some answer.invokeId
  | segmentAck ack => if ack.server then some ack.invokeId else none
  | abort server invokeId _ => if server then some invokeId else none
  | confirmedRequest _ | unconfirmedRequest _ _ => none

namespace Transactions

/-- An answer belongs to the transaction that is named by its source. -/
theorem keyOf?_of_answers {apdu : Apdu} {id : UInt8} (answers : apdu.answers? = some id)
    (peer : Address) : keyOf? peer apdu = some (.client peer id) := by
  unfold Apdu.answers? at answers
  unfold keyOf?
  cases apdu with
  | simpleAck _ _ | error _ _ _ _ | reject _ _ | complexAck _ =>
    cases answers
    rfl
  | segmentAck ack =>
    dsimp only at answers ⊢
    split at answers
    · next server =>
      cases answers
      rw [if_pos server]
    · cases answers
  | abort server _ _ =>
    dsimp only at answers ⊢
    split at answers
    · next serves =>
      cases answers
      rw [if_pos serves]
    · cases answers
  | confirmedRequest _ | unconfirmedRequest _ _ => cases answers

theorem exists_progress_start (config : Config) (invokeId service : UInt8) (parameters : Octets)
    (plan : RequestPlan) : ∃ transaction span,
      (ClientTransaction.start config invokeId service parameters plan).progress =
        .restart transaction span := by
  unfold ClientTransaction.start ClientTransaction.transmit
  dsimp only
  split
  · exact ⟨_, _, rfl⟩
  · exact ⟨_, _, rfl⟩

/-- A request becomes a transaction that is named by the station to which it is sent. -/
theorem contains_of_request {transactions : Transactions} {timers : TimerQueue TimerEvent}
    {now : Nat} {peer : Address} {service : UInt8} {parameters : Octets} {known : Option Peer}
    {id : UInt8} {step : TransactionStep}
    (requested : transactions.request timers now peer service parameters known = (.ok id, step)) :
    step.transactions.contains (.client peer id) = true := by
  unfold request at requested
  split at requested
  · cases requested
  · next plan _ =>
    dsimp only at requested
    split at requested
    · cases requested
    · next given _ =>
      cases requested
      obtain ⟨transaction, span, progress⟩ :=
        exists_progress_start transactions.config id service parameters plan
      rw [react, Reaction.map, progress, Progress.map, proceed, contains, Table.contains]
      dsimp only
      rw [Table.find?_insert, if_pos rfl]
      rfl

end Transactions

/-! ## What can be relied on -/

namespace Relay

variable {before after relay : Relay} {ports : List PortConfig} {config : RouterConfig}

theorem Reaches.router_extends (reaches : before.Reaches after) :
    before.router.Extends after.router := by
  obtain ⟨events, rfl⟩ := reaches
  exact extends_run before events

theorem Reaches.wellRouted (reaches : (new ports config).Reaches relay) :
    relay.router.WellRouted := by
  obtain ⟨events, rfl⟩ := reaches
  exact wellRouted_run ports config events

theorem Reaches.length_ports (reaches : (new ports config).Reaches relay) :
    relay.router.ports.length = ports.length := by
  obtain ⟨events, rfl⟩ := reaches
  exact (length_ports_run _ events).trans (List.length_map _)

end Relay

namespace Device

section

variable [TextCodec]

/-- A request to a station becomes a transaction. When a message has been sent to this station, the
answer is handed to the application once, as one from this station, whatever happens in the
meantime. So it belongs to the transaction. -/
theorem answer_finds_request {config : Config} (valid : config.validate = .ok ())
    (few : config.ports.length ≤ UInt16.size) (turns : List (Environment × Nat × DeviceTurn))
    {station : Address} (single : station.mac ≠ []) (remote : station.isGlobal = false)
    {asked : Nat} {service : UInt8} {parameters : Octets} {known : Option Peer} {id : UInt8}
    {step : TransactionStep}
    (requested : ((start config).run turns).transactions.request ((start config).run turns).timers
      asked station service parameters known = (.ok id, step))
    {relay : Relay}
    (before : Relay.Reaches ⟨((start config).run turns).router, step.timers⟩ relay)
    {now : Nat} {data : Octets} {expectingReply : Bool} {priority : NetworkPriority}
    {transmissions : List Transmission} {router : Router} {timers : TimerQueue TimerEvent}
    (sends : Routing.send relay.router relay.timers now station
      ⟨.apdu data, expectingReply, priority⟩ = (.ok transmissions, router, timers))
    {sent : Transmission} {mac : Octets} (member : sent ∈ transmissions)
    (body : sent.npdu.body = .apdu data) (link : sent.destination = .unicast mac)
    (answerable : relay.router.Answerable station sent)
    {later : Relay} (after : Relay.Reaches ⟨router, timers⟩ later)
    {answer : Npdu} {reply : Octets} (answers : answer.Answers sent.npdu reply)
    {apdu : Apdu} (responds : apdu.answers? = some id) (moment : Nat) :
    step.transactions.contains (.client station id) = true ∧
      Routing.deliveries (later.step moment (.receive ⟨sent.port, mac⟩ answer)).outputs =
        [(station, reply)] ∧
      Transactions.keyOf? station apdu = some (.client station id) := by
  obtain ⟨ports, -⟩ := Config.links_of_validate valid
  have reached : (Relay.new config.ports config.router).Reaches relay := by
    have timed := Transactions.reaches_request ((start config).run turns).router
      ((start config).run turns).transactions ((start config).run turns).timers asked station
      service parameters known
    rw [requested] at timed
    exact ((reaches_run_start config turns).trans timed).trans before
  have links : relay.router.ports ≠ [] := by
    rw [← List.length_pos_iff, reached.length_ports]
    exact List.length_pos_iff.mpr ports
  have leaves := Routing.sendsTo_of_send reached.wellRouted (reached.length_ports ▸ few) links single
    remote sends member body link
  have sending : relay.Reaches ⟨router, timers⟩ := by
    have sent := Relay.Reaches.step relay now (.send station ⟨.apdu data, expectingReply, priority⟩)
    unfold Relay.step at sent
    dsimp only at sent
    rw [sends] at sent
    exact sent
  have extended := (sending.trans after).router_extends
  exact ⟨Transactions.contains_of_request requested,
    Relay.deliveries_answer leaves answerable extended answers moment,
    Transactions.keyOf?_of_answers responds station⟩

end

open scoped Chart

/-- A router at the address 1 on network 1, with a link to network 2. -/
def knownRouter : Config :=
  { Config.standard with ports := [⟨some 1, some [1]⟩, ⟨some 2, none⟩] }

/-- A router with a link to network 2 that does not know the number of its first network. -/
def anonymousRouter : Config := { Config.standard with ports := [.unknown, ⟨some 2, none⟩] }

/-- A new device asks a station for a service. -/
def asking (config : Config) (station : Address) :
    Except TransactionError UInt8 × TransactionStep :=
  (start config).transactions.request (start config).timers 0 station 12 [] none

/-- It sends a message to this station. -/
def sending (config : Config) (station : Address) :
    Except NetworkError (List Transmission) × Router × TimerQueue TimerEvent :=
  Routing.send (start config).router (asking config station).2.timers 0 station
    ⟨.apdu [0], true, .normal⟩

/-- What is handed to its application when a message arrives then. -/
def receiving (config : Config) (station : Address) (arrival : Arrival) (npdu : Npdu) :
    List (Address × Octets) :=
  let (_, router, timers) := sending config station
  Routing.deliveries ((Relay.mk router timers).step 1 (.receive arrival npdu)).outputs

/-- The message as it leaves without a destination, on its own network. -/
def nearby (port : PortId) (station : Address) (source : Option Address) : Transmission :=
  ⟨port, .unicast station.mac, ⟨.normal, true, none, source, 255, .apdu [0]⟩⟩

/-- The answer to it. -/
def confirmation (destination : Option Address) : Npdu :=
  { Npdu.ofBody (.apdu [32, 1, 12]) with destination }

/-- The answer of a station on network 2 belongs to the request. -/
theorem answer_finds_request_otherLink :
    (sending knownRouter ⟨2, [12]⟩).1 = .ok [nearby 1 ⟨2, [12]⟩ (some ⟨1, [1]⟩)] ∧
      (asking knownRouter ⟨2, [12]⟩).2.transactions.contains (.client ⟨2, [12]⟩ 1) = true ∧
      receiving knownRouter ⟨2, [12]⟩ ⟨1, [12]⟩ (confirmation (some ⟨1, [1]⟩)) =
        [(⟨2, [12]⟩, [32, 1, 12])] ∧
      Transactions.keyOf? ⟨2, [12]⟩ (.simpleAck 1 12) = some (.client ⟨2, [12]⟩ 1) := by
  have requested : asking knownRouter ⟨2, [12]⟩ = (.ok 1, (asking knownRouter ⟨2, [12]⟩).2) := rfl
  have sends : sending knownRouter ⟨2, [12]⟩ = (.ok [nearby 1 ⟨2, [12]⟩ (some ⟨1, [1]⟩)],
      (sending knownRouter ⟨2, [12]⟩).2.1, (sending knownRouter ⟨2, [12]⟩).2.2) := rfl
  refine ⟨rfl, ?_⟩
  exact answer_finds_request rfl (by decide) [] (List.cons_ne_nil _ _) rfl requested (.refl _) sends
    List.mem_cons_self rfl rfl ⟨.inr rfl, .inr (by decide)⟩ (.refl _) ⟨rfl, rfl, rfl⟩ rfl 1

/-- A station on the first network that is addressed by the number of this network answers from
another address, under which there is no transaction. And nothing is handed to the application of an
answer on another link if the request has not named its source. -/
theorem exists_lost_answer :
    (knownRouter.validate = .ok () ∧
      (sending knownRouter ⟨1, [10]⟩).1 = .ok [nearby 0 ⟨1, [10]⟩ none] ∧
      (confirmation none).Answers (nearby 0 ⟨1, [10]⟩ none).npdu [32, 1, 12] ∧
      (asking knownRouter ⟨1, [10]⟩).2.transactions.contains (.client ⟨1, [10]⟩ 1) = true ∧
      receiving knownRouter ⟨1, [10]⟩ ⟨0, [10]⟩ (confirmation none) = [(⟨0, [10]⟩, [32, 1, 12])] ∧
      (asking knownRouter ⟨1, [10]⟩).2.transactions.contains (.client ⟨0, [10]⟩ 1) = false) ∧
    anonymousRouter.validate = .ok () ∧
      (sending anonymousRouter ⟨2, [12]⟩).1 = .ok [nearby 1 ⟨2, [12]⟩ none] ∧
      (confirmation none).Answers (nearby 1 ⟨2, [12]⟩ none).npdu [32, 1, 12] ∧
      receiving anonymousRouter ⟨2, [12]⟩ ⟨1, [12]⟩ (confirmation none) = [] :=
  ⟨⟨rfl, rfl, ⟨rfl, rfl, rfl⟩, rfl, rfl, rfl⟩, rfl, rfl, ⟨rfl, rfl, rfl⟩, rfl⟩

end Device

end BACnet
