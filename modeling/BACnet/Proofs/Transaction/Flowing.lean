import BACnet.Proofs.Segment.Flow
import BACnet.Transaction.Live

/-!
# Transactions whose messages flow

What the transactions of both sides do with the segments and acknowledgments of a message that flows
over links that lose and repeat nothing, and when a message is cut into segments at all.
-/

namespace BACnet

/-! ## Messages in segments -/

/-- There is room for a message in segments. -/
structure Config.Admits (config : Config) (payload : Payload) : Prop where
  segments : ∀ limit ∈ config.maxSegments.count?, payload.count ≤ limit
  octets : payload.data.length ≤ ReceiveWindow.reassemblyLimit config

/-- The segments of a request to a peer of which nothing is known. -/
def requestPayload (config : Config) (request : Octets) : Payload :=
  .new request (RequestPlan.segmented config.maxApdu.size request.length).segmentSize

/-- The segments of an answer to a client that accepts messages of this length. -/
def answerPayload (longest : Nat) (answer : Octets) : Payload :=
  .new answer (max (longest - ServerTransaction.segmentHeadLength) 1)

theorem MaxApduSize.fifty_le (longest : MaxApduSize) : 50 ≤ longest.size := by
  cases longest <;> decide

/-! ## Reactions -/

variable {flow : Flow} {first last : Nat} {config : Config}

theorem Config.Admits.start_takes (room : config.Admits flow.payload)
    (own : flow.own = config.proposedWindow) {segment : Segment}
    (cut : segment.CutFrom flow.payload 0)
    (asks : segment.header.windowSize = clampWindow flow.proposed) :
    ∃ window, ReceiveWindow.start segment.data segment.header.windowSize config = .ok window ∧
      flow.Takes 0 0 window := by
  rw [ReceiveWindow.start, ← own]
  exact Flow.opened_takes cut asks config.maxSegments.count? (ReceiveWindow.reassemblyLimit config)
    room.segments room.octets

/-- What a transaction does with the next segment of a message: `ack` acknowledges a segment,
`await` waits for more of them, and `conclude` is what the whole message leads to. -/
inductive Flow.Collects {σ : Type} (flow : Flow) (first last : Nat)
    (ack : UInt8 → UInt8 → TransactionEffect) (await : ReceiveWindow → Progress σ)
    (conclude : Octets → Reaction σ) : Reaction σ → Prop where
  | complete (final : last + 2 = flow.payload.count) :
    Collects flow first last ack await conclude
      (.after [ack (UInt8.ofNat (last + 1)) flow.size] (conclude flow.payload.data))
  | windowFull {next : ReceiveWindow} (full : last + 2 = flow.edge first)
    (more : last + 2 < flow.payload.count) (takes : flow.Takes first (last + 1) next) :
    Collects flow first last ack await conclude
      ⟨[ack (UInt8.ofNat (last + 1)) flow.size], await next⟩
  | accepted {next : ReceiveWindow} (more : last + 2 < flow.edge first)
    (takes : flow.Takes first (last + 1) next) :
    Collects flow first last ack await conclude ⟨[], await next⟩

namespace ServerTransaction

variable (server : ServerTransaction) (invokeId : UInt8)

theorem startReceive_of_started (receives : config.segmentation.canReceive = true)
    {segment : Segment} {window : ReceiveWindow}
    (started : ReceiveWindow.start segment.data segment.header.windowSize config = .ok window)
    (cut : segment.CutFrom flow.payload 0) (takes : flow.Takes 0 0 window) :
    server.startReceive config invokeId segment =
      ⟨[ack invokeId false 0 flow.size],
        .restart { server with phase := .segmentedReceive window } config.segmentSpan⟩ := by
  have zero : segment.header.sequenceNumber = 0 := cut.sequenceNumber
  have more : segment.header.moreFollows = true := cut.moreFollows_iff.mpr flow.several
  unfold startReceive
  rw [if_neg (not_not.mpr receives), if_neg (not_not.mpr zero), started]
  dsimp only
  rw [if_pos more, takes.size_eq]
  rfl

theorem collects (config : Config) {window : ReceiveWindow}
    (takes : flow.Takes first last window) (more : last + 1 < flow.edge first) {segment : Segment}
    (cut : segment.CutFrom flow.payload (last + 1)) :
    flow.Collects first last (ack invokeId false)
      (fun next => .restart { server with phase := .segmentedReceive next } config.segmentSpan)
      (server.process config) (server.collect config invokeId window segment) := by
  have next := takes.next more cut
  unfold collect
  generalize window.receive segment = receipt at next
  cases next with
  | complete final data last_eq size_eq =>
    dsimp only
    rw [last_eq, size_eq, data]
    exact .complete final
  | windowFull full more takes =>
    dsimp only
    rw [takes.holds.last_eq, takes.size_eq]
    exact .windowFull full more takes
  | accepted more takes => exact .accepted more takes

theorem respondComplex_whole (config : Config) {answer : Octets}
    (short : ¬ server.maxApdu.size < headLength + answer.length) :
    server.respondComplex config invokeId answer =
      conclude (server.answer invokeId none answer) := by
  unfold respondComplex
  dsimp only
  rw [if_pos (Nat.not_lt.mp short)]

theorem respondComplex_segmented (config : Config) {answer : Octets}
    (long : server.maxApdu.size < headLength + answer.length)
    (transmits : config.segmentation.canTransmit = true)
    (accepted : server.segmentedResponseAccepted = true)
    (few : ∀ limit ∈ server.maxSegments.count?,
      (answerPayload server.maxApdu.size answer).count ≤ limit) :
    server.respondComplex config invokeId answer =
      let window := SendWindow.new (answerPayload server.maxApdu.size answer) config.proposedWindow
      ⟨server.sendSegments invokeId window.pending,
        .restart { server with phase := .segmentedResponse window } config.segmentSpan⟩ := by
  have served : ¬ (¬ config.segmentation.canTransmit = true ∨
      ¬ server.segmentedResponseAccepted = true) :=
    not_or.mpr ⟨not_not.mpr transmits, not_not.mpr accepted⟩
  have room : ¬ server.maxSegments.count?.any
      (· < (answerPayload server.maxApdu.size answer).count) = true := by
    rw [Option.any_eq_true]
    rintro ⟨limit, given, exceeded⟩
    exact Nat.not_lt.mpr (few limit given) (of_decide_eq_true exceeded)
  unfold respondComplex
  dsimp only
  rw [if_neg (Nat.not_le.mpr long), if_neg served]
  exact if_neg room

/-- After the acknowledgment of the last window nothing is left to do. -/
theorem acknowledge_last (config : Config) (received : SegmentAck) {send : SendWindow}
    (sends : flow.Sends first send) (final : flow.edge first = flow.payload.count)
    (number : received.sequenceNumber = UInt8.ofNat (flow.edge first - 1))
    (size : received.windowSize = flow.size) :
    server.acknowledge config invokeId send received = ⟨[], .finish⟩ := by
  have known := sends.acknowledged
  unfold acknowledge
  rw [number, size]
  generalize send.acknowledge _ flow.size = result at known
  cases known with
  | complete => rfl
  | advanced next => exact absurd final (Nat.ne_of_lt next.inside)

theorem acknowledge_more (config : Config) (received : SegmentAck) {send : SendWindow}
    (sends : flow.Sends first send) (more : flow.edge first < flow.payload.count)
    (number : received.sequenceNumber = UInt8.ofNat (flow.edge first - 1))
    (size : received.windowSize = flow.size) :
    ∃ next, flow.Sends (flow.edge first) next ∧
      flow.InFlight (flow.edge first) (flow.edge (flow.edge first)) next.current ∧
      server.acknowledge config invokeId send received =
        ⟨server.sendSegments invokeId next.current,
          .restart { server with phase := .segmentedResponse next } config.segmentSpan⟩ := by
  have known := sends.acknowledged
  unfold acknowledge
  rw [number, size]
  generalize send.acknowledge _ flow.size = result at known
  cases known with
  | complete final => exact absurd final (Nat.ne_of_lt more)
  | advanced sends flight => exact ⟨_, sends, flight, rfl⟩

end ServerTransaction

namespace ClientTransaction

variable (client : ClientTransaction) (invokeId : UInt8)

theorem startReceive_of_started (receives : config.segmentation.canReceive = true)
    {segment : Segment} {window : ReceiveWindow}
    (started : ReceiveWindow.start segment.data segment.header.windowSize config = .ok window)
    (cut : segment.CutFrom flow.payload 0) (takes : flow.Takes 0 0 window) :
    client.startReceive config invokeId segment =
      ⟨[ack invokeId false 0 flow.size],
        .restart { client with phase := .segmentedReceive window } config.segmentSpan⟩ := by
  have zero : segment.header.sequenceNumber = 0 := cut.sequenceNumber
  have more : segment.header.moreFollows = true := cut.moreFollows_iff.mpr flow.several
  unfold startReceive
  rw [if_neg (not_not.mpr receives), if_neg (not_not.mpr zero), started]
  dsimp only
  rw [if_pos more, takes.size_eq]
  rfl

theorem collects (config : Config) {window : ReceiveWindow}
    (takes : flow.Takes first last window) (more : last + 1 < flow.edge first) {segment : Segment}
    (cut : segment.CutFrom flow.payload (last + 1)) :
    flow.Collects first last (ack invokeId false)
      (fun next => .restart { client with phase := .segmentedReceive next } config.segmentSpan)
      (fun data => conclude (.ok (.complex data)))
      (client.collect config invokeId window segment) := by
  have next := takes.next more cut
  unfold collect
  generalize window.receive segment = receipt at next
  cases next with
  | complete final data last_eq size_eq =>
    dsimp only
    rw [last_eq, size_eq, data]
    exact .complete final
  | windowFull full more takes =>
    dsimp only
    rw [takes.holds.last_eq, takes.size_eq]
    exact .windowFull full more takes
  | accepted more takes => exact .accepted more takes

/-- After the acknowledgment of the last window the answer is awaited. -/
theorem acknowledge_last (config : Config) (received : SegmentAck)
    (sends : flow.Sends first client.send) (final : flow.edge first = flow.payload.count)
    (number : received.sequenceNumber = UInt8.ofNat (flow.edge first - 1))
    (size : received.windowSize = flow.size) :
    ∃ next, client.acknowledge config invokeId received =
      ⟨[], .restart { client with send := next, phase := .awaitingAck } config.answerSpan⟩ := by
  have known := sends.acknowledged
  unfold acknowledge
  rw [number, size]
  generalize client.send.acknowledge _ flow.size = result at known
  cases known with
  | complete => exact ⟨_, rfl⟩
  | advanced next => exact absurd final (Nat.ne_of_lt next.inside)

theorem acknowledge_more (config : Config) (received : SegmentAck)
    (sends : flow.Sends first client.send) (more : flow.edge first < flow.payload.count)
    (number : received.sequenceNumber = UInt8.ofNat (flow.edge first - 1))
    (size : received.windowSize = flow.size) :
    ∃ next, flow.Sends (flow.edge first) next ∧
      flow.InFlight (flow.edge first) (flow.edge (flow.edge first)) next.current ∧
      client.acknowledge config invokeId received =
        ⟨client.sendSegments config invokeId next.current,
          .restart { client with send := next } config.segmentSpan⟩ := by
  have known := sends.acknowledged
  unfold acknowledge
  rw [number, size]
  generalize client.send.acknowledge _ flow.size = result at known
  cases known with
  | complete final => exact absurd final (Nat.ne_of_lt more)
  | advanced sends flight => exact ⟨_, sends, flight, rfl⟩

end ClientTransaction

end BACnet
