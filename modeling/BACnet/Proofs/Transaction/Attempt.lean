import BACnet.Proofs.Segment.Window
import BACnet.Proofs.Transaction.Endpoint
import BACnet.Proofs.Transaction.RequestMessages

/-!
# Attempts to send a message in segments

A transaction that sends a message in segments believes what acknowledgments tell it. `Attempt` is a
transaction together with all the segments that it has sent in its present attempt, so that what it
believes can be compared with what it has done.

An acknowledgment is checked against the window that it brings itself, not against the one that was
in force when the segments went out. So a peer that brings a larger window can acknowledge segments
that have never been sent (`exists_unsent_acknowledged`). As long as no peer does so, all that is
taken for received has been sent (`covered_of_reachable`).

A transaction does not keep in mind that its last segment has gone out. So an answer that overtakes
the acknowledgment of this segment ends the exchange (`answered_of_reachable`).
-/

namespace BACnet

/-! ## The window that is in force -/

/-- A segment of the message with this index is among the segments. -/
def Payload.SentIn (payload : Payload) (index : Nat) (sent : List Segment) : Prop :=
  ∃ segment ∈ sent, segment.CutFrom payload index

theorem Payload.SentIn.mono {payload : Payload} {index : Nat} {sent more : List Segment}
    (sentIn : payload.SentIn index sent) (kept : sent ⊆ more) : payload.SentIn index more := by
  obtain ⟨segment, member, cut⟩ := sentIn
  exact ⟨segment, kept member, cut⟩

namespace SendWindow

/-- The number of segments in the window that is in force. It is the first segment alone until a
window is granted. -/
def inForce (window : SendWindow) : Nat :=
  if window.firstUnacked = 0 then 1 else window.granted.toNat

/-- The acknowledgment is of a segment of the window in force, or at least it does not bring a
larger window. -/
def Allows (window : SendWindow) (received : SegmentAck) : Prop :=
  (received.sequenceNumber - UInt8.ofNat window.firstUnacked).toNat < window.inForce ∨
    (clampWindow received.windowSize).toNat ≤ window.inForce

instance (window : SendWindow) (received : SegmentAck) : Decidable (window.Allows received) :=
  inferInstanceAs (Decidable (_ ∨ _))

variable {window : SendWindow} {sent more : List Segment}

theorem pending_eq (window : SendWindow) :
    window.pending = window.segments window.inForce window.firstUnacked := by
  unfold pending inForce current
  split
  · next unmoved => rw [unmoved]
  · rfl

theorem sentIn_segments (window : SendWindow) {count first index : Nat} (behind : first ≤ index)
    (ahead : index < first + count) (inside : index < window.payload.count) :
    window.payload.SentIn index (window.segments count first) := by
  have member : index ∈ List.range' first (min count (window.payload.count - first)) := by
    rw [List.mem_range'_1]
    omega
  have described := window.cutFrom_segments count first
  generalize List.range' first (min count (window.payload.count - first)) = indices
    at member described
  generalize window.segments count first = segments at described
  induction described with
  | nil => cases member
  | cons cut _ ih =>
    rcases List.mem_cons.mp member with rfl | later
    · exact ⟨_, List.mem_cons_self, cut⟩
    · exact (ih later).mono (List.subset_cons_self _ _)

/-- The segments are all those before the window in force, and all of it. -/
structure Covered (window : SendWindow) (sent : List Segment) : Prop where
  inside : window.firstUnacked < window.payload.count
  sentIn : ∀ index < window.firstUnacked + window.inForce, index < window.payload.count →
    window.payload.SentIn index sent

theorem Covered.mono (covered : window.Covered sent) (kept : sent ⊆ more) :
    window.Covered more :=
  ⟨covered.inside, fun index near inside => (covered.sentIn index near inside).mono kept⟩

/-- The first segment is enough of a message of which nothing has been acknowledged. -/
theorem covered_pending (unmoved : window.firstUnacked = 0) : window.Covered window.pending := by
  have inForce : window.inForce = 1 := if_pos unmoved
  refine ⟨unmoved ▸ window.payload.count_pos, ?_⟩
  intro index near inside
  rw [pending_eq]
  exact window.sentIn_segments (by omega) near inside

/-- How far behind the first segment that is not acknowledged an acknowledgment points, and what
comes of it. -/
theorem acknowledge_cases (window : SendWindow) (number granted : UInt8) :
    ∃ offset, (number - UInt8.ofNat window.firstUnacked).toNat = offset ∧
      ((clampWindow granted).toNat ≤ offset ∧
          window.acknowledge number granted =
            (.duplicate, { window with granted := clampWindow granted }) ∨
        offset < (clampWindow granted).toNat ∧
          window.payload.count ≤ window.firstUnacked + offset + 1 ∧
          window.acknowledge number granted =
            (.complete, { window with granted := clampWindow granted }) ∨
        offset < (clampWindow granted).toNat ∧
          window.firstUnacked + offset + 1 < window.payload.count ∧
          window.acknowledge number granted =
            (.advanced,
              { window with
                granted := clampWindow granted
                firstUnacked := window.firstUnacked + offset + 1
                retries := 0 })) := by
  refine ⟨_, rfl, ?_⟩
  have near_iff : inWindow number (UInt8.ofNat window.firstUnacked) (clampWindow granted) = true ↔
      (number - UInt8.ofNat window.firstUnacked).toNat < (clampWindow granted).toNat := by
    rw [inWindow, decide_eq_true_iff, UInt8.lt_iff_toNat_lt]
  unfold acknowledge
  dsimp only
  split
  · next outside => exact .inl ⟨Nat.not_lt.mp (near_iff.not.mp outside), rfl⟩
  · next inside =>
    have near := near_iff.mp (Decidable.not_not.mp inside)
    split
    · next final => exact .inr (.inl ⟨near, final, rfl⟩)
    · next more => exact .inr (.inr ⟨near, Nat.not_le.mp more, rfl⟩)

section

variable {received : SegmentAck} {offset : Nat}

/-- If an allowed acknowledgment is taken, it is of a segment of the window in force. -/
theorem Allows.offset_lt (allows : window.Allows received)
    (tells : (received.sequenceNumber - UInt8.ofNat window.firstUnacked).toNat = offset)
    (taken : offset < (clampWindow received.windowSize).toNat) : offset < window.inForce := by
  rcases allows with inside | small
  · rwa [tells] at inside
  · exact Nat.lt_of_lt_of_le taken small

/-- If an allowed acknowledgment is not taken, it does not enlarge the window in force. -/
theorem Allows.inForce_le (allows : window.Allows received)
    (tells : (received.sequenceNumber - UInt8.ofNat window.firstUnacked).toNat = offset)
    (refused : (clampWindow received.windowSize).toNat ≤ offset) :
    inForce { window with granted := clampWindow received.windowSize } ≤ window.inForce := by
  have small : (clampWindow received.windowSize).toNat ≤ window.inForce := by
    rcases allows with inside | small
    · rw [tells] at inside
      exact Nat.le_of_lt (Nat.lt_of_le_of_lt refused inside)
    · exact small
  unfold inForce at small ⊢
  dsimp only
  split
  · exact Nat.le_refl _
  · next moved =>
    rw [if_neg moved] at small
    exact small

end

/-- What is left to an allowed acknowledgment: the window stays, all of the message has been sent,
or the next window is sent. -/
theorem Covered.acknowledge (covered : window.Covered sent) {received : SegmentAck}
    (allows : window.Allows received) :
    match window.acknowledge received.sequenceNumber received.windowSize with
    | (.duplicate, next) => next.Covered sent
    | (.complete, next) => next.payload = window.payload ∧
      ∀ index < window.payload.count, window.payload.SentIn index sent
    | (.advanced, next) => next.Covered (sent ++ next.current) := by
  obtain ⟨offset, tells, ⟨far, repeated⟩ | ⟨near, final, complete⟩ | ⟨near, more, advanced⟩⟩ :=
    window.acknowledge_cases received.sequenceNumber received.windowSize
  · rw [repeated]
    refine ⟨covered.inside, ?_⟩
    intro index near inside
    have small := allows.inForce_le tells far
    change index < window.firstUnacked + inForce _ at near
    exact covered.sentIn index (by omega) inside
  · rw [complete]
    have inForce := allows.offset_lt tells near
    refine ⟨rfl, ?_⟩
    intro index inside
    exact covered.sentIn index (by omega) inside
  · rw [advanced]
    have inForce := allows.offset_lt tells near
    refine ⟨more, ?_⟩
    intro index near inside
    by_cases behind : window.firstUnacked + offset + 1 ≤ index
    · have sentNow := sentIn_segments
        { window with
          granted := clampWindow received.windowSize
          firstUnacked := window.firstUnacked + offset + 1
          retries := 0 } behind near inside
      exact Payload.SentIn.mono sentNow (List.subset_append_right _ _)
    · have sentBefore := covered.sentIn index (by omega) inside
      exact sentBefore.mono (List.subset_append_left _ _)

end SendWindow

/-! ## Attempts -/

/-- The segment that is sent, if one is. -/
def TransactionEffect.segment? : TransactionEffect → Option Segment
  | send (.confirmedRequest request) => request.segment.map fun header =>
    ⟨header, request.parameters⟩
  | send (.complexAck answer) => answer.segment.map fun header => ⟨header, answer.parameters⟩
  | _ => none

/-- The message whose segments are being sent, if any are. -/
def ClientTransaction.sending? (client : ClientTransaction) : Option SendWindow :=
  match client.phase with
  | .segmentedRequest => some client.send
  | _ => none

/-- The message whose segments are being sent, if any are. -/
def Transaction.sending? : Transaction → Option SendWindow
  | client transaction => transaction.sending?
  | server transaction => transaction.sendWindow?

/-- A transaction and the segments that it has sent in this attempt. -/
structure Attempt where
  transaction : Transaction
  sent : List Segment
  deriving DecidableEq, Repr

namespace Attempt

/-- The attempt after a reaction, if it is not over. -/
def after (before : Option Transaction) (sent : List Segment) (reaction : Reaction Transaction) :
    Option Attempt :=
  (reaction.progress.leaves before).map fun transaction =>
    ⟨transaction, sent ++ reaction.effects.filterMap (·.segment?)⟩

/-- What a transaction can come to by messages and by time, where `allows` tells which
acknowledgments may arrive while segments are being sent. A request that starts over makes a new
attempt. -/
inductive Reachable (config : Config) (invokeId : UInt8)
    (allows : SendWindow → SegmentAck → Prop) : Attempt → Prop where
  /-- A request is sent. -/
  | asks {attempt : Attempt} (service : UInt8) (parameters : Octets) (plan : RequestPlan)
    (begins : after none []
      ((ClientTransaction.start config invokeId service parameters plan).map .client) =
        some attempt) :
    Reachable config invokeId allows attempt
  /-- A request is answered. -/
  | answers {attempt : Attempt} (server : ServerTransaction) (outcome : Outcome)
    (begins : after none [] ((server.respond config invokeId outcome).map .server) =
      some attempt) :
    Reachable config invokeId allows attempt
  | receives {attempt next : Attempt} (reached : Reachable config invokeId allows attempt)
    (apdu : Apdu)
    (allowed : ∀ window received, attempt.transaction.sending? = some window →
      apdu = .segmentAck received → allows window received)
    (goesOn : after (some attempt.transaction) attempt.sent
      (attempt.transaction.receive config invokeId apdu) = some next) :
    Reachable config invokeId allows next
  | expires {attempt next : Attempt} (reached : Reachable config invokeId allows attempt)
    (goesOn : after (some attempt.transaction)
      (if attempt.transaction.sending?.isSome then attempt.sent else [])
      (attempt.transaction.timeout config invokeId) = some next) :
    Reachable config invokeId allows next

end Attempt

/-! ## Reactions keep what has been sent covered -/

/-- The states in which the transaction goes on are covered by what has been sent before, together
with what the reaction sends. -/
def Reaction.Covers {σ : Type} (covered : σ → List Segment → Prop) (sent : List Segment)
    (reaction : Reaction σ) : Prop :=
  ∀ state span, reaction.progress = .restart state span →
    covered state (sent ++ reaction.effects.filterMap (·.segment?))

namespace Reaction

variable {σ τ : Type} {covered : σ → List Segment → Prop} {sent : List Segment}

theorem covers_finish (effects : List TransactionEffect) :
    Covers covered sent (⟨effects, .finish⟩ : Reaction σ) := by
  rintro _ _ ⟨⟩

theorem covers_ignore : (ignore : Reaction σ).Covers covered sent := by
  rintro _ _ ⟨⟩

theorem covers_restart {effects : List TransactionEffect} {state : σ}
    (holds : covered state (sent ++ effects.filterMap (·.segment?))) (span : Nat) :
    Covers covered sent ⟨effects, .restart state span⟩ := by
  rintro _ _ ⟨⟩
  exact holds

theorem Covers.map {reaction : Reaction σ} (covers : reaction.Covers covered sent) {embed : σ → τ}
    {covered' : τ → List Segment → Prop}
    (same : ∀ state sent, covered state sent → covered' (embed state) sent) :
    (reaction.map embed).Covers covered' sent := by
  intro state span restarts
  obtain ⟨old, goesOn, rfl⟩ := exists_restart_of_map restarts
  exact same old _ (covers old span goesOn)

end Reaction

namespace ClientTransaction

variable {client : ClientTransaction} {config : Config} {invokeId : UInt8}
  {sent more : List Segment}

/-- As long as segments of the request are sent, what has been sent covers the window. Later all
segments have been sent, if it has several. -/
def Covered (client : ClientTransaction) (sent : List Segment) : Prop :=
  match client.phase with
  | .segmentedRequest => client.send.Covered sent
  | _ => client.send.isSegmented →
    ∀ index < client.send.payload.count, client.send.payload.SentIn index sent

theorem Covered.mono (covered : client.Covered sent) (kept : sent ⊆ more) :
    client.Covered more := by
  unfold Covered at covered ⊢
  split at covered
  · exact SendWindow.Covered.mono covered kept
  · exact fun several index inside => (covered several index inside).mono kept

theorem segment?_sendSegments (client : ClientTransaction) (config : Config) (invokeId : UInt8)
    (segments : List Segment) :
    (client.sendSegments config invokeId segments).filterMap (·.segment?) = segments := by
  rw [sendSegments, List.filterMap_map]
  exact List.filterMap_some

theorem covers_transmit (client : ClientTransaction) (config : Config) (invokeId : UInt8)
    (sent : List Segment) : (client.transmit config invokeId).Covers Covered sent := by
  unfold transmit
  dsimp only
  split
  · apply Reaction.covers_restart
    rw [segment?_sendSegments]
    have first : SendWindow.Covered client.send.rewind client.send.rewind.pending :=
      SendWindow.covered_pending rfl
    exact first.mono (List.subset_append_right _ _)
  · next single =>
    apply Reaction.covers_restart
    exact fun several => absurd several single

/-- The answer is collected when all segments of the request have been sent. -/
theorem covers_collecting (covered : client.Covered sent)
    (answered : client.phase ≠ .segmentedRequest) (effects : List TransactionEffect)
    (window : ReceiveWindow) (span : Nat) :
    Reaction.Covers Covered sent
      ⟨effects, .restart { client with phase := .segmentedReceive window } span⟩ := by
  apply Reaction.covers_restart
  have complete : client.send.isSegmented →
      ∀ index < client.send.payload.count, client.send.payload.SentIn index sent := by
    unfold Covered at covered
    split at covered
    · next sending => exact absurd sending answered
    · exact covered
  exact fun several index inside =>
    (complete several index inside).mono (List.subset_append_left _ _)

theorem covers_acknowledge (covered : client.Covered sent)
    (sending : client.phase = .segmentedRequest) {received : SegmentAck}
    (allows : client.send.Allows received) :
    (client.acknowledge config invokeId received).Covers Covered sent := by
  have known : client.send.Covered sent := by
    unfold Covered at covered
    rwa [sending] at covered
  have kept := known.acknowledge allows
  unfold acknowledge
  split
  next outcome next acknowledged =>
  rw [acknowledged] at kept
  dsimp only
  split
  · apply Reaction.covers_restart
    unfold Covered
    rw [sending]
    exact SendWindow.Covered.mono kept (List.subset_append_left _ _)
  · apply Reaction.covers_restart
    obtain ⟨same, complete⟩ := kept
    intro _ index inside
    change index < next.payload.count at inside
    show next.payload.SentIn index _
    rw [same] at inside ⊢
    exact (complete index inside).mono (List.subset_append_left _ _)
  · apply Reaction.covers_restart
    rw [segment?_sendSegments]
    unfold Covered
    rw [sending]
    exact kept

theorem covers_receive (covered : client.Covered sent) {apdu : Apdu}
    (allowed : ∀ window received, client.sending? = some window → apdu = .segmentAck received →
      window.Allows received) :
    (client.receive config invokeId apdu).Covers Covered sent := by
  have takes := client.takes_receive config invokeId apdu
  generalize client.receive config invokeId apdu = reaction at takes
  cases takes with
  | ends => exact Reaction.covers_finish _
  | ignores => exact Reaction.covers_ignore
  | collects complete => exact covers_collecting covered complete _ _ _
  | acknowledges sending same =>
    have window : client.sending? = some client.send := by rw [sending?, sending]
    exact covers_acknowledge covered sending (allowed _ _ window same)

/-- A request that is sent anew makes a new attempt, for which nothing need have been sent. -/
theorem covers_timeout (covered : client.Covered sent) {kept : List Segment}
    (keeps : client.sending?.isSome → kept = sent) :
    (client.timeout config invokeId).Covers Covered kept := by
  unfold timeout
  split
  · next sending =>
    split
    · apply Reaction.covers_restart
      rw [keeps (by rw [sending?, sending]; rfl)]
      unfold Covered at covered ⊢
      rw [sending] at covered ⊢
      have same : SendWindow.Covered client.send.countRetry sent :=
        ⟨covered.inside, covered.sentIn⟩
      exact same.mono (List.subset_append_left _ _)
    · exact Reaction.covers_finish _
  · split
    · exact covers_transmit _ _ _ _
    · exact Reaction.covers_finish _
  · exact Reaction.covers_finish _

end ClientTransaction

namespace ServerTransaction

variable {server : ServerTransaction} {config : Config} {invokeId : UInt8}
  {sent more : List Segment}

/-- As long as segments of the answer are sent, what has been sent covers the window. -/
def Covered (server : ServerTransaction) (sent : List Segment) : Prop :=
  ∀ window, server.sendWindow? = some window → window.Covered sent

theorem covered_of_idle (idle : server.sendWindow? = none) : server.Covered sent := by
  intro window sending
  rw [idle] at sending
  cases sending

theorem covered_sending {window : SendWindow} (covered : window.Covered sent) :
    Covered { server with phase := .segmentedResponse window } sent := by
  rintro _ ⟨⟩
  exact covered

theorem Covered.mono (covered : server.Covered sent) (kept : sent ⊆ more) :
    server.Covered more :=
  fun window sending => (covered window sending).mono kept

theorem segment?_sendSegments (server : ServerTransaction) (invokeId : UInt8)
    (segments : List Segment) :
    (server.sendSegments invokeId segments).filterMap (·.segment?) = segments := by
  rw [sendSegments, List.filterMap_map]
  exact List.filterMap_some

theorem covers_respond (server : ServerTransaction) (outcome : Outcome) :
    (server.respond config invokeId outcome).Covers Covered sent := by
  unfold respond
  split
  · exact Reaction.covers_finish _
  · unfold respondComplex
    dsimp only
    split
    · exact Reaction.covers_finish _
    · split
      · exact Reaction.covers_finish _
      · split
        · exact Reaction.covers_finish _
        · apply Reaction.covers_restart
          rw [segment?_sendSegments]
          apply covered_sending
          apply SendWindow.Covered.mono _ (List.subset_append_right _ _)
          exact SendWindow.covered_pending rfl
  · exact Reaction.covers_finish _
  · exact Reaction.covers_finish _
  · exact Reaction.covers_finish _
  · exact Reaction.covers_finish _

theorem covers_acknowledge {window : SendWindow} (covered : window.Covered sent)
    {received : SegmentAck} (allows : window.Allows received) :
    (server.acknowledge config invokeId window received).Covers Covered sent := by
  have kept := covered.acknowledge allows
  unfold acknowledge
  split
  next outcome next acknowledged =>
  rw [acknowledged] at kept
  dsimp only
  split
  · apply Reaction.covers_restart
    exact covered_sending (SendWindow.Covered.mono kept (List.subset_append_left _ _))
  · exact Reaction.covers_finish _
  · apply Reaction.covers_restart
    rw [segment?_sendSegments]
    exact covered_sending kept

theorem covers_collect (server : ServerTransaction) (window : ReceiveWindow) (segment : Segment) :
    (server.collect config invokeId window segment).Covers Covered sent := by
  unfold collect
  split
  · exact Reaction.covers_finish _
  · exact Reaction.covers_restart (covered_of_idle rfl) _
  · exact Reaction.covers_restart (covered_of_idle rfl) _
  · exact Reaction.covers_restart (covered_of_idle rfl) _
  · exact Reaction.covers_restart (covered_of_idle rfl) _

theorem covers_receive (covered : server.Covered sent) {apdu : Apdu}
    (allowed : ∀ window received, server.sendWindow? = some window →
      apdu = .segmentAck received → window.Allows received) :
    (server.receive config invokeId apdu).Covers Covered sent := by
  unfold receive
  split
  · exact Reaction.covers_finish _
  · split
    · exact covers_collect server _ _
    · exact Reaction.covers_finish _
  · next received window phase =>
    have sending : server.sendWindow? = some window := by rw [sendWindow?, phase]
    exact covers_acknowledge (covered window sending) (allowed window _ sending rfl)
  · exact Reaction.covers_ignore

theorem covers_timeout (covered : server.Covered sent) {kept : List Segment}
    (keeps : server.sendWindow?.isSome → kept = sent) :
    (server.timeout config invokeId).Covers Covered kept := by
  unfold timeout
  split
  · exact Reaction.covers_finish _
  · exact Reaction.covers_finish _
  · next window phase =>
    have sending : server.sendWindow? = some window := by rw [sendWindow?, phase]
    split
    · apply Reaction.covers_restart
      rw [keeps (by rw [sending]; rfl)]
      have before := covered window sending
      have same : SendWindow.Covered window.countRetry sent := ⟨before.inside, before.sentIn⟩
      exact covered_sending (same.mono (List.subset_append_left _ _))
    · exact Reaction.covers_finish _

end ServerTransaction

namespace Transaction

variable {transaction : Transaction} {config : Config} {invokeId : UInt8}
  {sent more : List Segment}

/-- What has been sent covers the window of the transaction. -/
def Covered : Transaction → List Segment → Prop
  | client transaction, sent => transaction.Covered sent
  | server transaction, sent => transaction.Covered sent

theorem Covered.mono (covered : transaction.Covered sent) (kept : sent ⊆ more) :
    transaction.Covered more := by
  cases transaction with
  | client client => exact ClientTransaction.Covered.mono covered kept
  | server server => exact ServerTransaction.Covered.mono covered kept

theorem covers_client {reaction : Reaction ClientTransaction}
    (covers : reaction.Covers ClientTransaction.Covered sent) :
    (reaction.map client).Covers Covered sent :=
  covers.map fun _ _ holds => holds

theorem covers_server {reaction : Reaction ServerTransaction}
    (covers : reaction.Covers ServerTransaction.Covered sent) :
    (reaction.map server).Covers Covered sent :=
  covers.map fun _ _ holds => holds

theorem Covered.receive (covered : transaction.Covered sent) {apdu : Apdu}
    (allowed : ∀ window received, transaction.sending? = some window →
      apdu = .segmentAck received → window.Allows received) :
    (transaction.receive config invokeId apdu).Covers Covered sent := by
  cases transaction with
  | client client => exact covers_client (ClientTransaction.covers_receive covered allowed)
  | server server => exact covers_server (ServerTransaction.covers_receive covered allowed)

theorem Covered.timeout (covered : transaction.Covered sent) :
    (transaction.timeout config invokeId).Covers Covered
      (if transaction.sending?.isSome then sent else []) := by
  cases transaction with
  | client client =>
    exact covers_client (ClientTransaction.covers_timeout covered fun sending => if_pos sending)
  | server server =>
    exact covers_server (ServerTransaction.covers_timeout covered fun sending => if_pos sending)

/-- While segments are being sent the window is covered. -/
theorem Covered.window (covered : transaction.Covered sent) {window : SendWindow}
    (sending : transaction.sending? = some window) : window.Covered sent := by
  cases transaction with
  | server server => exact covered window sending
  | client client =>
    unfold Transaction.sending? ClientTransaction.sending? at sending
    unfold Transaction.Covered ClientTransaction.Covered at covered
    dsimp only at sending covered
    split at sending
    · next phase =>
      cases sending
      rwa [phase] at covered
    · cases sending

end Transaction

namespace Attempt

variable {config : Config} {invokeId : UInt8} {attempt : Attempt}

/-- The attempt that a covering reaction leads to is covered; one in which the transaction keeps
its timer changes nothing. -/
theorem covered_of_after {before : Option Transaction} {sent : List Segment}
    {reaction : Reaction Transaction} (covers : reaction.Covers Transaction.Covered sent)
    (keeps : ∀ transaction, before = some transaction → reaction.progress = .keep →
      transaction.Covered sent)
    (goesOn : after before sent reaction = some attempt) :
    attempt.transaction.Covered attempt.sent := by
  obtain ⟨transaction, left, rfl⟩ := Option.map_eq_some_iff.mp goesOn
  rcases Progress.of_leaves_eq_some left with ⟨kept, stays⟩ | ⟨span, restarts⟩
  · exact (keeps transaction stays kept).mono (List.subset_append_left _ _)
  · exact covers transaction span restarts

/-- As long as acknowledgments keep to the window in force, what has been sent covers the window. -/
theorem Reachable.covered (reachable : Reachable config invokeId SendWindow.Allows attempt) :
    attempt.transaction.Covered attempt.sent := by
  induction reachable with
  | asks service parameters plan begins =>
    have covers := ClientTransaction.covers_transmit
      ⟨service, .new (.new parameters plan.segmentSize) config.proposedWindow, 0, .awaitingAck⟩
      config invokeId []
    exact covered_of_after (Transaction.covers_client covers) (by rintro _ ⟨⟩) begins
  | answers server outcome begins =>
    have covers : (server.respond config invokeId outcome).Covers ServerTransaction.Covered [] :=
      ServerTransaction.covers_respond server outcome
    exact covered_of_after (Transaction.covers_server covers) (by rintro _ ⟨⟩) begins
  | receives _ apdu allowed goesOn ih =>
    refine covered_of_after (ih.receive allowed) ?_ goesOn
    rintro _ ⟨⟩ _
    exact ih
  | expires _ goesOn ih =>
    refine covered_of_after ih.timeout ?_ goesOn
    rintro transaction ⟨⟩ keeps
    exact absurd keeps (Transaction.timeout_ne_keep _)

/-! ## Acknowledgments -/

/-- As long as acknowledgments keep to the window in force, whatever else arrives and whenever time
runs out: all segments before the window have been sent in this attempt, and if an acknowledgment
completes the message, all of its segments. -/
theorem covered_of_reachable {window : SendWindow}
    (reachable : Reachable config invokeId SendWindow.Allows attempt)
    (sending : attempt.transaction.sending? = some window) :
    (∀ index < window.firstUnacked, window.payload.SentIn index attempt.sent) ∧
      ∀ received, window.Allows received →
        (window.acknowledge received.sequenceNumber received.windowSize).1 = .complete →
          ∀ index < window.payload.count, window.payload.SentIn index attempt.sent := by
  have covered := reachable.covered.window sending
  refine ⟨?_, ?_⟩
  · intro index before
    have inside := covered.inside
    exact covered.sentIn index (by omega) (by omega)
  · intro received allows complete
    have known := covered.acknowledge allows
    split at known
    · next acknowledged =>
      rw [acknowledged] at complete
      cases complete
    · exact known.2
    · next acknowledged =>
      rw [acknowledged] at complete
      cases complete

/-- A device that takes part in segmentation and asks for windows of four segments. -/
def windowOfFour : Config := { Config.standard with proposedWindow := 4, segmentation := .both }

/-- A request of three octets in as many segments, of which the first one has been sent. -/
def firstOfThree : Attempt where
  transaction := .client ⟨15, .new ⟨[1, 2, 3], 1⟩ 4, 0, .segmentedRequest⟩
  sent := [⟨⟨0, 4, true⟩, [1]⟩]

/-- The same request when a window of four segments has been granted. -/
def allOfThree : Attempt where
  transaction := .client ⟨15, ⟨⟨[1, 2, 3], 1⟩, 1, 4, 4, 0⟩, 0, .segmentedRequest⟩
  sent := [⟨⟨0, 4, true⟩, [1]⟩, ⟨⟨1, 4, true⟩, [2]⟩, ⟨⟨2, 4, false⟩, [3]⟩]

theorem reachable_firstOfThree (allows : SendWindow → SegmentAck → Prop) :
    Reachable windowOfFour 1 allows firstOfThree :=
  .asks 15 [1, 2, 3] ⟨1, 3⟩ rfl

theorem reachable_allOfThree : Reachable windowOfFour 1 SendWindow.Allows allOfThree := by
  refine .receives (reachable_firstOfThree _) (.segmentAck ⟨false, true, 1, 0, 4⟩) ?_ rfl
  rintro window received ⟨⟩ ⟨⟩
  exact .inl (by decide)

/-- The segments of the window have been sent, and its acknowledgment completes the message. -/
theorem covered_of_reachable_allOfThree :
    Reachable windowOfFour 1 SendWindow.Allows allOfThree ∧
      ∀ index < 3, Payload.SentIn ⟨[1, 2, 3], 1⟩ index allOfThree.sent := by
  obtain ⟨-, completed⟩ := covered_of_reachable reachable_allOfThree rfl
  exact ⟨reachable_allOfThree, completed ⟨false, true, 1, 2, 4⟩ (by decide) (by decide)⟩

/-- If acknowledgments may bring any window, segments that have never been sent are taken for
received, and even the whole message. -/
theorem exists_unsent_acknowledged :
    (∃ attempt window, Reachable windowOfFour 1 (fun _ _ => True) attempt ∧
      attempt.transaction.sending? = some window ∧ 1 < window.firstUnacked ∧
      ¬ window.payload.SentIn 1 attempt.sent) ∧
    ∃ attempt window, Reachable windowOfFour 1 (fun _ _ => True) attempt ∧
      attempt.transaction.sending? = some window ∧ (window.acknowledge 2 4).1 = .complete ∧
      ¬ window.payload.SentIn 2 attempt.sent := by
  refine ⟨⟨⟨.client ⟨15, ⟨⟨[1, 2, 3], 1⟩, 2, 4, 4, 0⟩, 0, .segmentedRequest⟩,
    [⟨⟨0, 4, true⟩, [1]⟩, ⟨⟨2, 4, false⟩, [3]⟩]⟩, _, ?_, rfl, by decide, ?_⟩,
    firstOfThree, _, reachable_firstOfThree _, rfl, by decide, ?_⟩
  · exact .receives (reachable_firstOfThree _) (.segmentAck ⟨false, true, 1, 1, 4⟩)
      (fun _ _ _ _ => trivial) rfl
  · rintro ⟨segment, member, cut⟩
    have data := cut.data
    simp only [List.mem_cons, List.not_mem_nil, or_false] at member
    rcases member with rfl | rfl
    · exact absurd data (by decide)
    · exact absurd data (by decide)
  · rintro ⟨segment, member, cut⟩
    have data := cut.data
    obtain rfl := List.mem_singleton.mp member
    exact absurd data (by decide)

/-! ## Answers -/

end Attempt

/-- The answer that is given by one message. -/
def Apdu.wholeAnswer? : Apdu → Option ServiceAck
  | simpleAck _ _ => some .simple
  | complexAck answer =>
    match answer.segment with
    | none => some (.complex answer.parameters)
    | some _ => none
  | _ => none

namespace ClientTransaction

variable {client : ClientTransaction} {config : Config} {invokeId : UInt8} {apdu : Apdu}
  {ack : ServiceAck}

/-- A request that awaits its answer ends with it. -/
theorem receive_of_awaitingAck (answer : apdu.wholeAnswer? = some ack)
    (awaits : client.phase = .awaitingAck) :
    client.receive config invokeId apdu = conclude (.ok ack) := by
  unfold receive
  rw [awaits]
  cases apdu with
  | simpleAck _ _ =>
    cases answer
    rfl
  | complexAck message =>
    obtain ⟨_, segment, _, _⟩ := message
    cases segment with
    | none =>
      cases answer
      rfl
    | some header => cases answer
  | _ => cases answer

/-- A request of which segments are being sent is given up at an answer. -/
theorem receive_of_segmentedRequest (answer : apdu.wholeAnswer? = some ack)
    (sending : client.phase = .segmentedRequest) :
    client.receive config invokeId apdu = abort invokeId .invalidApduInThisState := by
  unfold receive
  rw [sending]
  cases apdu with
  | simpleAck _ _ => rfl
  | complexAck _ => rfl
  | _ => cases answer

theorem Covered.complete {sent : List Segment} (covered : client.Covered sent)
    (several : client.send.isSegmented = true) (sent_all : client.phase ≠ .segmentedRequest) :
    ∀ index < client.send.payload.count, client.send.payload.SentIn index sent := by
  unfold Covered at covered
  split at covered
  · next sending => exact absurd sending sent_all
  · exact covered several

end ClientTransaction

namespace Attempt

variable {config : Config} {invokeId : UInt8} {attempt : Attempt}

/-- A request in segments ends with its answer, and with nothing else, if the last segment has been
acknowledged before; then all segments have been sent. Until then it is given up at an answer, in
particular as long as the last segment has not been sent. -/
theorem answered_of_reachable {client : ClientTransaction} {apdu : Apdu} {ack : ServiceAck}
    (reachable : Reachable config invokeId SendWindow.Allows attempt)
    (asks : attempt.transaction = .client client) (several : client.send.isSegmented = true)
    (answer : apdu.wholeAnswer? = some ack) :
    (client.phase = .awaitingAck →
      (∀ index < client.send.payload.count, client.send.payload.SentIn index attempt.sent) ∧
        client.receive config invokeId apdu = ⟨[.confirm (.ok ack)], .finish⟩) ∧
    (client.phase = .segmentedRequest →
      client.receive config invokeId apdu =
        ⟨[.send (.abort false invokeId .invalidApduInThisState),
          .confirm (.error (.abort .invalidApduInThisState false))], .finish⟩) ∧
    (¬ client.send.payload.SentIn (client.send.payload.count - 1) attempt.sent →
      client.phase = .segmentedRequest) := by
  have covered : client.Covered attempt.sent := by
    have known := reachable.covered
    rwa [asks] at known
  refine ⟨?_, ?_, ?_⟩
  · intro awaits
    have sent_all : client.phase ≠ .segmentedRequest := by
      rw [awaits]
      nofun
    exact ⟨covered.complete several sent_all,
      ClientTransaction.receive_of_awaitingAck answer awaits⟩
  · exact ClientTransaction.receive_of_segmentedRequest answer
  · intro unsent
    apply Classical.byContradiction
    intro sent_all
    have some := client.send.payload.count_pos
    exact unsent (covered.complete several sent_all _ (by omega))

/-- All three segments have been acknowledged. -/
theorem answered_of_reachable_allOfThree :
    ClientTransaction.receive ⟨15, ⟨⟨[1, 2, 3], 1⟩, 1, 4, 4, 0⟩, 0, .awaitingAck⟩ windowOfFour 1
      (.simpleAck 1 15) = ⟨[.confirm (.ok .simple)], .finish⟩ := by
  have acknowledged : Reachable windowOfFour 1 SendWindow.Allows
      ⟨.client ⟨15, ⟨⟨[1, 2, 3], 1⟩, 1, 4, 4, 0⟩, 0, .awaitingAck⟩, allOfThree.sent⟩ := by
    refine .receives reachable_allOfThree (.segmentAck ⟨false, true, 1, 2, 4⟩) ?_ rfl
    rintro window received ⟨⟩ ⟨⟩
    exact .inl (by decide)
  obtain ⟨answered, -, -⟩ := answered_of_reachable acknowledged rfl rfl
    (show (Apdu.simpleAck 1 15).wholeAnswer? = some .simple from rfl)
  exact (answered rfl).2

/-- All segments have been sent, and still an answer is not taken, for the acknowledgment of the
last segment is missing. -/
theorem exists_answer_refused :
    ∃ attempt client, Reachable windowOfFour 1 SendWindow.Allows attempt ∧
      attempt.transaction = .client client ∧ client.phase = .segmentedRequest ∧
      (∀ index < client.send.payload.count,
        client.send.payload.SentIn index attempt.sent) ∧
      client.receive windowOfFour 1 (.simpleAck 1 15) =
        ⟨[.send (.abort false 1 .invalidApduInThisState),
          .confirm (.error (.abort .invalidApduInThisState false))], .finish⟩ := by
  have covered := reachable_allOfThree.covered.window rfl
  refine ⟨allOfThree, _, reachable_allOfThree, rfl, rfl, ?_, rfl⟩
  intro index inside
  exact covered.sentIn index (Nat.lt_of_lt_of_le inside (by decide)) inside

end Attempt

end BACnet
