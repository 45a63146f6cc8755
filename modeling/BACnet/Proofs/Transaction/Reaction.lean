import BACnet.Transaction.Live

/-!
# What all reactions have in common

A reaction of a transaction is `Proper` if it gives the outcome of the exchange just when the
exchange is over, and if the state in which the transaction goes on is fit. On the side that asks an
exchange ends with one outcome, on the side that answers with none.

Every reaction of both sides is proper, where the fit states are those whose collected segments obey
the configuration: this is all that is needed to know about the branches of the two machines.
-/

namespace BACnet

/-! ## Collected segments -/

/-- The segments that have been collected are as many as, and no longer than, the configuration
allows, and the last one has the number that follows from their count. -/
structure ReceiveWindow.Within (config : Config) (window : ReceiveWindow) : Prop where
  maxSegments : window.reassembly.maxSegments = config.maxSegments.count?
  maxLength : window.reassembly.maxLength = reassemblyLimit config
  nonempty : 0 < window.reassembly.segments
  last_eq : window.last = UInt8.ofNat (window.reassembly.segments - 1)
  segments_le : ∀ limit ∈ config.maxSegments.count?, window.reassembly.segments ≤ limit
  length_le : window.data.length ≤ reassemblyLimit config

namespace Reassembly

/-- What a segment that is taken changes. -/
theorem push_eq_ok {reassembly next : Reassembly} {octets : Octets}
    (pushed : reassembly.push octets = .ok next) :
    next = { reassembly with
        data := reassembly.data ++ octets, segments := reassembly.segments + 1 } ∧
      (∀ limit ∈ reassembly.maxSegments, reassembly.segments + 1 ≤ limit) ∧
      (reassembly.data ++ octets).length ≤ reassembly.maxLength := by
  unfold push at pushed
  split at pushed
  · cases pushed
  · next room =>
    obtain ⟨notFull, fits⟩ := not_or.mp room
    cases pushed
    refine ⟨rfl, ?_, ?_⟩
    · intro limit given
      apply Nat.not_le.mp
      intro full
      apply notFull
      rw [isFull, Option.any_eq_true]
      exact ⟨limit, given, decide_eq_true full⟩
    · rw [List.length_append]
      exact Nat.not_lt.mp fits

theorem append_eq_ok {reassembly next : Reassembly} {number : UInt8} {octets : Octets}
    (appended : reassembly.append number octets = .ok next) :
    number = reassembly.lastSequence + 1 ∧
      ∃ pushed, reassembly.push octets = .ok pushed ∧
        next = { pushed with lastSequence := number } := by
  unfold append at appended
  split at appended
  · next expected =>
    cases pushed : reassembly.push octets with
    | error fault =>
      rw [pushed] at appended
      cases appended
    | ok grown =>
      rw [pushed] at appended
      cases appended
      exact ⟨expected, grown, rfl, rfl⟩
  · cases appended

end Reassembly

namespace ReceiveWindow

theorem within_of_start {config : Config} {first : Octets} {asked : UInt8} {window : ReceiveWindow}
    (started : start first asked config = .ok window) : window.Within config := by
  unfold start opened Reassembly.new at started
  cases pushed : Reassembly.push ⟨[], 0, 0, config.maxSegments.count?, reassemblyLimit config⟩
      first with
  | error fault =>
    rw [pushed] at started
    cases started
  | ok reassembly =>
    rw [pushed] at started
    cases started
    obtain ⟨rfl, few, short⟩ := Reassembly.push_eq_ok pushed
    exact ⟨rfl, rfl, Nat.one_pos, rfl, few, short⟩

/-- A window that goes on has taken one more segment. -/
theorem Within.grow {config : Config} {window : ReceiveWindow} (within : window.Within config)
    {number : UInt8} {octets : Octets} {reassembly : Reassembly}
    (appended : window.reassembly.append number octets = .ok reassembly) (lastAcked : UInt8) :
    Within config { window with reassembly, lastAcked } := by
  obtain ⟨next, pushed, pushes, rfl⟩ := Reassembly.append_eq_ok appended
  obtain ⟨rfl, few, short⟩ := Reassembly.push_eq_ok pushes
  have one := within.nonempty
  have last : window.reassembly.lastSequence = UInt8.ofNat (window.reassembly.segments - 1) :=
    within.last_eq
  refine {
    maxSegments := within.maxSegments
    maxLength := within.maxLength
    nonempty := Nat.succ_pos _
    last_eq := ?_
    segments_le := within.maxSegments ▸ few
    length_le := within.maxLength ▸ short }
  show number = UInt8.ofNat (window.reassembly.segments + 1 - 1)
  rw [next, last, Nat.add_sub_cancel, ← Nat.sub_add_cancel one, UInt8.ofNat_add]
  rfl

theorem Within.receive {config : Config} {window next : ReceiveWindow}
    (within : window.Within config) {segment : Segment}
    (taken : window.receive segment = .accepted next ∨
      window.receive segment = .windowFull next) : next.Within config := by
  unfold ReceiveWindow.receive at taken
  cases appended : window.reassembly.append segment.header.sequenceNumber segment.data with
  | error fault =>
    rw [appended] at taken
    cases fault <;> simp at taken
  | ok reassembly =>
    have grown := within.grow appended
    rw [appended] at taken
    dsimp only at taken
    split at taken
    · simp at taken
    · split at taken
      · simp only [Receipt.windowFull.injEq, reduceCtorEq, false_or] at taken
        subst taken
        exact grown _
      · simp only [Receipt.accepted.injEq, reduceCtorEq, or_false] at taken
        subst taken
        exact grown _

end ReceiveWindow

/-! ## Proper reactions -/

/-- Whether the outcome of an exchange is given. -/
def TransactionEffect.isOutcome : TransactionEffect → Bool
  | confirm _ => true
  | _ => false

/-- Whether the exchange is over. -/
def Progress.ends {σ : Type} : Progress σ → Bool
  | finish => true
  | _ => false

/-- The reaction gives `due` outcomes if the exchange is over and none otherwise, and if a state is
entered it is fit. -/
structure Reaction.Proper {σ : Type} (due : Nat) (fit : σ → Prop) (reaction : Reaction σ) :
    Prop where
  outcomes : reaction.effects.countP (·.isOutcome) = if reaction.progress.ends then due else 0
  fits : ∀ state span, reaction.progress = .restart state span → fit state

theorem Progress.map_ne_keep {σ τ : Type} {progress : Progress σ} {embed : σ → τ}
    (goesOn : progress ≠ .keep) : progress.map embed ≠ .keep := by
  cases progress with
  | keep => exact absurd rfl goesOn
  | finish => nofun
  | restart state span => nofun

namespace Reaction

variable {σ τ : Type} {due : Nat} {fit : σ → Prop}

theorem exists_restart_of_map {reaction : Reaction σ} {embed : σ → τ} {state : τ} {span : Nat}
    (restarts : (reaction.map embed).progress = .restart state span) :
    ∃ old, reaction.progress = .restart old span ∧ embed old = state := by
  obtain ⟨effects, progress⟩ := reaction
  cases progress with
  | finish => cases restarts
  | keep => cases restarts
  | restart old span =>
    cases restarts
    exact ⟨old, rfl, rfl⟩

theorem proper_ignore : (ignore : Reaction σ).Proper due fit := ⟨rfl, nofun⟩

theorem proper_finish {effects : List TransactionEffect}
    (outcomes : effects.countP (·.isOutcome) = due) :
    Proper due fit (⟨effects, .finish⟩ : Reaction σ) := by
  refine ⟨?_, ?_⟩
  · rw [outcomes, Progress.ends, if_pos rfl]
  · rintro _ _ ⟨⟩

theorem proper_restart {effects : List TransactionEffect}
    (silent : effects.countP (·.isOutcome) = 0) {state : σ} (fits : fit state) (span : Nat) :
    Proper due fit ⟨effects, .restart state span⟩ := by
  refine ⟨silent, ?_⟩
  rintro _ _ ⟨⟩
  exact fits

theorem Proper.after {reaction : Reaction σ} (proper : reaction.Proper due fit)
    {effects : List TransactionEffect} (silent : effects.countP (·.isOutcome) = 0) :
    (after effects reaction).Proper due fit := by
  refine ⟨?_, proper.fits⟩
  show (effects ++ reaction.effects).countP (·.isOutcome) = _
  rw [List.countP_append, silent, Nat.zero_add]
  exact proper.outcomes

theorem Proper.map {reaction : Reaction σ} (proper : reaction.Proper due fit) {embed : σ → τ}
    {fit' : τ → Prop} (fits : ∀ state, fit state → fit' (embed state)) :
    (reaction.map embed).Proper due fit' := by
  refine ⟨?_, ?_⟩
  · obtain ⟨effects, progress⟩ := reaction
    have outcomes := proper.outcomes
    cases progress <;> exact outcomes
  · intro state span restarts
    obtain ⟨old, goesOn, rfl⟩ := exists_restart_of_map restarts
    exact fits old (proper.fits old span goesOn)

end Reaction

/-! ## The side that asks -/

namespace ClientTransaction

/-- The segments of the answer, if they are being collected. -/
def receiveWindow? (client : ClientTransaction) : Option ReceiveWindow :=
  match client.phase with
  | .segmentedReceive window => some window
  | _ => none

/-- The collected segments obey the configuration. -/
def Within (config : Config) (client : ClientTransaction) : Prop :=
  ∀ window, client.receiveWindow? = some window → window.Within config

variable {config : Config} {invokeId : UInt8}

/-- The reactions of this side: an exchange ends with one outcome. -/
abbrev Proper (config : Config) (reaction : Reaction ClientTransaction) : Prop :=
  Reaction.Proper 1 (Within config) reaction

theorem proper_conclude (outcome : Outcome) : Proper config (conclude outcome) :=
  Reaction.proper_finish rfl

theorem proper_abort (reason : AbortReason) : Proper config (abort invokeId reason) :=
  (proper_conclude _).after rfl

theorem silent_sendSegments (client : ClientTransaction) (segments : List Segment) :
    (client.sendSegments config invokeId segments).countP (·.isOutcome) = 0 := by
  rw [List.countP_eq_zero]
  intro effect member
  obtain ⟨segment, _, rfl⟩ := List.mem_map.mp member
  exact Bool.false_ne_true

theorem within_of_idle {client : ClientTransaction} (idle : client.receiveWindow? = none) :
    client.Within config := by
  intro window collected
  rw [idle] at collected
  cases collected

/-- The segments of the request do not matter. -/
theorem Within.withSend {client : ClientTransaction} (within : client.Within config)
    (send : SendWindow) : Within config { client with send } := within

theorem proper_transmit (client : ClientTransaction) :
    Proper config (client.transmit config invokeId) := by
  unfold transmit
  dsimp only
  split
  · exact Reaction.proper_restart (silent_sendSegments _ _) (within_of_idle rfl) _
  · exact Reaction.proper_restart rfl (within_of_idle rfl) _

theorem proper_start (service : UInt8) (parameters : Octets) (plan : RequestPlan) :
    Proper config (start config invokeId service parameters plan) :=
  proper_transmit _

/-- Goes on with collecting the segments of the answer. -/
theorem proper_await (client : ClientTransaction) {effects : List TransactionEffect}
    (silent : effects.countP (·.isOutcome) = 0) {window : ReceiveWindow}
    (within : window.Within config) (span : Nat) :
    Proper config ⟨effects, .restart { client with phase := .segmentedReceive window } span⟩ := by
  apply Reaction.proper_restart silent
  rintro _ ⟨⟩
  exact within

theorem proper_startReceive (client : ClientTransaction) (segment : Segment) :
    Proper config (client.startReceive config invokeId segment) := by
  unfold startReceive
  split
  · exact proper_abort _
  · split
    · exact proper_abort _
    · split
      · exact proper_abort _
      · next window started =>
        apply Reaction.Proper.after _ rfl
        split
        · exact proper_await client rfl (ReceiveWindow.within_of_start started) _
        · exact proper_conclude _

theorem proper_receiveAnswer (client : ClientTransaction) (apdu : Apdu) :
    Proper config (client.receiveAnswer config invokeId apdu) := by
  unfold receiveAnswer
  split
  · exact proper_conclude _
  · split
    · exact proper_conclude _
    · exact proper_startReceive client _
  · exact proper_conclude _
  · exact proper_conclude _
  · exact proper_conclude _
  · exact Reaction.proper_ignore

theorem proper_acknowledge {client : ClientTransaction} (within : client.Within config)
    (received : SegmentAck) : Proper config (client.acknowledge config invokeId received) := by
  unfold acknowledge
  split
  dsimp only
  split
  · exact Reaction.proper_restart rfl (within.withSend _) _
  · exact Reaction.proper_restart rfl (within_of_idle rfl) _
  · exact Reaction.proper_restart (silent_sendSegments _ _) (within.withSend _) _

theorem proper_receiveEarly {client : ClientTransaction} (within : client.Within config)
    (apdu : Apdu) : Proper config (client.receiveEarly config invokeId apdu) := by
  unfold receiveEarly
  split
  · exact proper_acknowledge within _
  · exact proper_abort _
  · exact proper_abort _
  · exact proper_receiveAnswer client apdu

theorem proper_collect (client : ClientTransaction) {window : ReceiveWindow}
    (within : window.Within config) (segment : Segment) :
    Proper config (client.collect config invokeId window segment) := by
  unfold collect
  split
  · exact proper_abort _
  · exact proper_await client rfl within _
  · next accepted => exact proper_await client rfl (within.receive (Or.inl accepted)) _
  · next full => exact proper_await client rfl (within.receive (Or.inr full)) _
  · exact (proper_conclude _).after rfl

theorem proper_receiveSegment (client : ClientTransaction) {window : ReceiveWindow}
    (within : window.Within config) (apdu : Apdu) :
    Proper config (client.receiveSegment config invokeId window apdu) := by
  unfold receiveSegment
  split
  · split
    · exact proper_collect client within _
    · exact proper_abort _
  · exact proper_conclude _
  · exact proper_abort _

theorem proper_receive {client : ClientTransaction} (within : client.Within config) (apdu : Apdu) :
    Proper config (client.receive config invokeId apdu) := by
  unfold receive
  split
  · exact proper_receiveEarly within apdu
  · exact proper_receiveAnswer client apdu
  · next window phase =>
    have collected : client.receiveWindow? = some window := by rw [receiveWindow?, phase]
    exact proper_receiveSegment client (within window collected) apdu

theorem proper_timeout {client : ClientTransaction} (within : client.Within config) :
    Proper config (client.timeout config invokeId) := by
  unfold timeout
  split
  · split
    · exact Reaction.proper_restart (silent_sendSegments _ _) (within.withSend _) _
    · exact proper_conclude _
  · split
    · exact proper_transmit _
    · exact proper_conclude _
  · exact proper_conclude _

/-- A timer that has run out is replaced, or the exchange is over. -/
theorem timeout_ne_keep (client : ClientTransaction) :
    (client.timeout config invokeId).progress ≠ .keep := by
  unfold timeout transmit
  dsimp only
  repeat' split
  all_goals nofun

end ClientTransaction

/-! ## The side that answers -/

namespace ServerTransaction

/-- The segments of the request, if they are being collected. -/
def receiveWindow? (server : ServerTransaction) : Option ReceiveWindow :=
  match server.phase with
  | .segmentedReceive window => some window
  | _ => none

/-- The segments of the answer, if they are being sent. -/
def sendWindow? (server : ServerTransaction) : Option SendWindow :=
  match server.phase with
  | .segmentedResponse window => some window
  | _ => none

/-- The collected segments obey the configuration. -/
def Within (config : Config) (server : ServerTransaction) : Prop :=
  ∀ window, server.receiveWindow? = some window → window.Within config

variable {config : Config} {invokeId : UInt8}

/-- The reactions of this side: an exchange ends without an outcome. -/
abbrev Proper (config : Config) (reaction : Reaction ServerTransaction) : Prop :=
  Reaction.Proper 0 (Within config) reaction

theorem proper_conclude (apdu : Apdu) : Proper config (conclude apdu) :=
  Reaction.proper_finish rfl

theorem proper_finish : Proper config ⟨[], .finish⟩ := Reaction.proper_finish rfl

theorem silent_sendSegments (server : ServerTransaction) (segments : List Segment) :
    (server.sendSegments invokeId segments).countP (·.isOutcome) = 0 := by
  rw [List.countP_eq_zero]
  intro effect member
  obtain ⟨segment, _, rfl⟩ := List.mem_map.mp member
  exact Bool.false_ne_true

theorem within_of_idle {server : ServerTransaction} (idle : server.receiveWindow? = none) :
    server.Within config := by
  intro window collected
  rw [idle] at collected
  cases collected

theorem proper_process (server : ServerTransaction) (parameters : Octets) :
    Proper config (server.process config parameters) :=
  Reaction.proper_restart rfl (within_of_idle rfl) _

theorem proper_await (server : ServerTransaction) {effects : List TransactionEffect}
    (silent : effects.countP (·.isOutcome) = 0) {window : ReceiveWindow}
    (within : window.Within config) : Proper config (server.await config effects window) := by
  apply Reaction.proper_restart silent
  rintro _ ⟨⟩
  exact within

theorem proper_startReceive (server : ServerTransaction) (segment : Segment) :
    Proper config (server.startReceive config invokeId segment) := by
  unfold startReceive
  split
  · exact proper_conclude _
  · split
    · exact proper_conclude _
    · split
      · exact proper_conclude _
      · next window started =>
        apply Reaction.Proper.after _ rfl
        split
        · exact proper_await server rfl (ReceiveWindow.within_of_start started)
        · exact proper_process server _

theorem proper_start (request : ConfirmedRequest) : Proper config (start config request) := by
  unfold start
  dsimp only
  split
  · exact proper_process _ _
  · exact proper_startReceive _ _

theorem proper_collect (server : ServerTransaction) {window : ReceiveWindow}
    (within : window.Within config) (segment : Segment) :
    Proper config (server.collect config invokeId window segment) := by
  unfold collect
  split
  · exact proper_conclude _
  · exact proper_await server rfl within
  · next accepted => exact proper_await server rfl (within.receive (Or.inl accepted))
  · next full => exact proper_await server rfl (within.receive (Or.inr full))
  · exact (proper_process server _).after rfl

/-- Goes on with sending the segments of the answer. -/
theorem proper_respondSegments (server : ServerTransaction) {effects : List TransactionEffect}
    (silent : effects.countP (·.isOutcome) = 0) (window : SendWindow) (span : Nat) :
    Proper config ⟨effects, .restart { server with phase := .segmentedResponse window } span⟩ :=
  Reaction.proper_restart silent (within_of_idle rfl) span

theorem proper_respondComplex (server : ServerTransaction) (parameters : Octets) :
    Proper config (server.respondComplex config invokeId parameters) := by
  unfold respondComplex
  dsimp only
  split
  · exact proper_conclude _
  · split
    · exact proper_conclude _
    · split
      · exact proper_conclude _
      · exact proper_respondSegments server (silent_sendSegments _ _) _ _

theorem proper_respond (server : ServerTransaction) (outcome : Outcome) :
    Proper config (server.respond config invokeId outcome) := by
  unfold respond
  split
  · exact proper_conclude _
  · exact proper_respondComplex server _
  · exact proper_conclude _
  · exact proper_conclude _
  · exact proper_conclude _
  · exact proper_conclude _

theorem proper_acknowledge (server : ServerTransaction) (window : SendWindow)
    (received : SegmentAck) :
    Proper config (server.acknowledge config invokeId window received) := by
  unfold acknowledge
  split
  dsimp only
  split
  · exact proper_respondSegments server rfl _ _
  · exact proper_finish
  · exact proper_respondSegments server (silent_sendSegments _ _) _ _

theorem proper_receive {server : ServerTransaction} (within : server.Within config) (apdu : Apdu) :
    Proper config (server.receive config invokeId apdu) := by
  unfold receive
  split
  · exact proper_finish
  · next window phase =>
    have collected : server.receiveWindow? = some window := by rw [receiveWindow?, phase]
    split
    · exact proper_collect server (within window collected) _
    · exact proper_conclude _
  · exact proper_acknowledge server _ _
  · exact Reaction.proper_ignore

theorem proper_timeout (server : ServerTransaction) :
    Proper config (server.timeout config invokeId) := by
  unfold timeout
  split
  · exact proper_finish
  · exact proper_conclude _
  · split
    · exact proper_respondSegments server (silent_sendSegments _ _) _ _
    · exact proper_finish

/-- A timer that has run out is replaced, or the exchange is over. -/
theorem timeout_ne_keep (server : ServerTransaction) :
    (server.timeout config invokeId).progress ≠ .keep := by
  unfold timeout abort conclude
  repeat' split
  all_goals nofun

end ServerTransaction

/-! ## Both sides -/

/-- The number of outcomes with which an exchange ends. -/
def Side.due : Side → Nat
  | client => 1
  | server => 0

namespace Transaction

/-- The side on which the transaction stands. -/
def side : Transaction → Side
  | client _ => .client
  | server _ => .server

/-- The segments that are collected, if any are. -/
def receiveWindow? : Transaction → Option ReceiveWindow
  | client transaction => transaction.receiveWindow?
  | server transaction => transaction.receiveWindow?

/-- The transaction stands on this side, and the segments that it has collected obey the
configuration. -/
structure Fits (config : Config) (side : Side) (transaction : Transaction) : Prop where
  side_eq : transaction.side = side
  within : ∀ window, transaction.receiveWindow? = some window → window.Within config

variable {config : Config} {invokeId : UInt8}

/-- The reactions on a side. -/
abbrev Proper (config : Config) (side : Side) (reaction : Reaction Transaction) : Prop :=
  reaction.Proper side.due (Fits config side)

theorem proper_client {reaction : Reaction ClientTransaction}
    (proper : ClientTransaction.Proper config reaction) :
    Proper config .client (reaction.map client) :=
  Reaction.Proper.map proper fun _ within => ⟨rfl, within⟩

theorem proper_server {reaction : Reaction ServerTransaction}
    (proper : ServerTransaction.Proper config reaction) :
    Proper config .server (reaction.map server) :=
  Reaction.Proper.map proper fun _ within => ⟨rfl, within⟩

theorem proper_ignore (side : Side) : Proper config side .ignore := Reaction.proper_ignore

theorem Fits.proper_receive {side : Side} {transaction : Transaction}
    (fits : transaction.Fits config side) (apdu : Apdu) :
    Proper config side (transaction.receive config invokeId apdu) := by
  obtain ⟨rfl, within⟩ := fits
  cases transaction with
  | client client => exact proper_client (ClientTransaction.proper_receive within apdu)
  | server server => exact proper_server (ServerTransaction.proper_receive within apdu)

theorem Fits.proper_abort {side : Side} {transaction : Transaction}
    (fits : transaction.Fits config side) (reason : AbortReason) :
    Proper config side (transaction.abort invokeId reason) := by
  obtain ⟨rfl, within⟩ := fits
  cases transaction with
  | client client => exact proper_client (ClientTransaction.proper_abort reason)
  | server server => exact proper_server (ServerTransaction.proper_conclude _)

theorem Fits.proper_timeout {side : Side} {transaction : Transaction}
    (fits : transaction.Fits config side) :
    Proper config side (transaction.timeout config invokeId) := by
  obtain ⟨rfl, within⟩ := fits
  cases transaction with
  | client client => exact proper_client (ClientTransaction.proper_timeout within)
  | server server => exact proper_server (ServerTransaction.proper_timeout server)

/-- A timer that has run out is replaced, or the exchange is over. -/
theorem timeout_ne_keep (transaction : Transaction) :
    (transaction.timeout config invokeId).progress ≠ .keep := by
  cases transaction with
  | client client => exact Progress.map_ne_keep client.timeout_ne_keep
  | server server => exact Progress.map_ne_keep server.timeout_ne_keep

end Transaction

end BACnet
