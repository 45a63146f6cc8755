import BACnet.Proofs.Transaction.Lifetime

/-!
# Requests within the limits of the peer

A request is cut by the longest message that both this device and the peer can handle. It is
refused, and then nothing is sent, or it is sent wholly or in segments, of which there are no more
than the peer is known to accept.

None of its messages is too long, in the whole life of the request, if the longest message has room
for more than the head of a segment, or for the whole request. A peer can announce less than that:
its segments are planned to have one octet each, and already the first message is too long
(`Endpoint.requests_within_limits_iff`).
-/

namespace BACnet

/-- The octets of a request are its parameters behind a head of four octets, or of six if it is a
segment. -/
theorem Apdu.length_encode_confirmedRequest (request : ConfirmedRequest) :
    (confirmedRequest request).encode.length = request.parameters.length +
      if request.segment.isSome then RequestPlan.segmentHeadLength
      else RequestPlan.headLength := by
  obtain ⟨accepted, maxSegments, maxApdu, invokeId, segment, service, parameters⟩ := request
  cases segment <;> rfl

/-! ## What is sent of a request -/

/-- The message carries nothing of a request, or the whole of this one, which needs one segment, or
one of its segments, of which it needs several. -/
def TransactionEffect.Conveys (payload : Payload) (effect : TransactionEffect) : Prop :=
  ∀ request, effect = .send (.confirmedRequest request) →
    match request.segment with
    | none => payload.count = 1 ∧ request.parameters = payload.data
    | some header =>
      1 < payload.count ∧ ∃ index, Segment.CutFrom payload index ⟨header, request.parameters⟩

theorem TransactionEffect.IsControl.conveys {invokeId : UInt8} {effect : TransactionEffect}
    (control : effect.IsControl invokeId) (payload : Payload) : effect.Conveys payload := by
  rintro request rfl
  cases control

namespace ClientTransaction

variable {config : Config} {invokeId : UInt8} {client : ClientTransaction} {payload : Payload}
  {reaction : Reaction ClientTransaction}

/-- The transaction is about a request that is cut in this way, and sends its segments only if there
are several. -/
structure Poses (payload : Payload) (client : ClientTransaction) : Prop where
  payload_eq : client.send.payload = payload
  several : client.phase = .segmentedRequest → 1 < payload.count

theorem poses_unsent (config : Config) (service : UInt8) (parameters : Octets)
    (plan : RequestPlan) :
    (unsent config service parameters plan).Poses (.new parameters plan.segmentSize) :=
  ⟨rfl, nofun⟩

/-- Whatever happens to a request, what is sent of it is cut in the same way. -/
theorem Utters.conveys (utters : Utters client config invokeId reaction)
    (poses : client.Poses payload) :
    reaction.Obeys (·.Conveys payload) (Poses payload) := by
  obtain ⟨rfl, before⟩ := poses
  have several (sending : client.phase = .segmentedRequest ∨ client.send.isSegmented = true) :
      1 < client.send.payload.count := by
    rcases sending with already | needed
    · exact before already
    · exact of_decide_eq_true needed
  have stays {next : ClientTransaction} (same : client.Continues next) :
      next.Poses client.send.payload :=
    ⟨same.payload, fun sending => several (same.sending sending)⟩
  cases utters with
  | ends controls outcome =>
    refine Reaction.Obeys.after (Reaction.obeys_finish ?_) fun effect member =>
      (controls effect member).conveys _
    exact List.forall_mem_singleton.mpr nofun
  | ignores => exact Reaction.obeys_ignore
  | goesOn controls same =>
    exact Reaction.obeys_restart (fun effect member => (controls effect member).conveys _)
      (stays same) _
  | whole single same =>
    refine Reaction.obeys_restart (List.forall_mem_singleton.mpr ?_) (stays same) _
    rintro _ ⟨⟩
    have one := client.send.payload.count_pos
    have few := Nat.not_lt.mp (of_decide_eq_false single)
    exact ⟨Nat.le_antisymm few one, rfl⟩
  | parts sending cut same =>
    refine Reaction.obeys_restart ?_ (stays same) _
    intro effect member
    obtain ⟨segment, sent, rfl⟩ := List.mem_map.mp member
    rintro _ ⟨⟩
    exact ⟨several sending, cut segment sent⟩

end ClientTransaction

/-- The transaction is about a request of this device that is cut in this way. -/
def Transaction.Poses (payload : Payload) : Transaction → Prop
  | client transaction => transaction.Poses payload
  | server _ => False

theorem Transaction.steady_poses (config : Config) (key : TransactionKey) (payload : Payload) :
    Steady config key (·.Conveys payload) (Poses payload) where
  receives := by
    rintro (client | server) apdu poses
    · exact ((client.utters_receive config key.invokeId apdu).conveys poses).map fun _ => id
    · exact poses.elim
  responds server outcome poses := poses.elim
  aborts := by
    rintro (client | server) reason poses
    · exact ((client.utters_abort config key.invokeId reason).conveys poses).map fun _ => id
    · exact poses.elim
  expires := by
    rintro (client | server) poses
    · exact ((client.utters_timeout config key.invokeId).conveys poses).map fun _ => id
    · exact poses.elim

/-! ## Plans -/

namespace RequestPlan

variable {config : Config} {parameters : Octets} {known : Option Peer} {plan : RequestPlan}

theorem le_of_checkPeer {segments limit : Nat} {device : Peer}
    (accepted : checkPeer segments (some device) = .ok ()) (limited : limit ∈ device.maxSegments) :
    segments ≤ limit := by
  dsimp only [checkPeer] at accepted
  split at accepted
  · cases accepted
  · rw [Option.mem_def.mp limited] at accepted
    dsimp only at accepted
    split at accepted
    · cases accepted
    · next few => exact Nat.not_lt.mp few

/-- A request that is sent in segments has no more of them than the peer is known to accept. -/
theorem segments_le (planned : new config parameters.length known = .ok plan)
    (several : 1 < plan.segments) {device : Peer} (told : device ∈ known) {limit : Nat}
    (limited : limit ∈ device.maxSegments) : plan.segments ≤ limit := by
  rcases new_cases planned with ⟨-, rfl⟩ | ⟨-, -, accepted⟩
  · exact (Nat.lt_irrefl 1 several).elim
  · rw [Option.mem_def.mp told] at accepted
    exact le_of_checkPeer accepted limited

/-- Longer messages are not sent if there is room for more than the head of a segment, or for the
whole request. -/
theorem length_encode_le (planned : new config parameters.length known = .ok plan)
    (room : segmentHeadLength < longestApdu config known ∨
      headLength + parameters.length ≤ longestApdu config known)
    {request : ConfirmedRequest}
    (conveys : TransactionEffect.Conveys (.new parameters plan.segmentSize)
      (.send (.confirmedRequest request))) :
    (Apdu.confirmedRequest request).encode.length ≤ longestApdu config known := by
  have carried := conveys request rfl
  have head : segmentHeadLength = headLength + 2 := rfl
  rw [Apdu.length_encode_confirmedRequest]
  cases segment : request.segment with
  | none =>
    rw [segment] at carried
    obtain ⟨single, whole⟩ := carried
    have fits := (Payload.new parameters plan.segmentSize).length_le_count_mul
      (Payload.segmentSize_new _ _)
    rw [single, Nat.one_mul] at fits
    rw [whole]
    show parameters.length + headLength ≤ longestApdu config known
    rcases new_cases planned with ⟨short, -⟩ | ⟨long, rfl, -⟩
    · rwa [Nat.add_comm]
    · dsimp only [Payload.new, segmented] at fits
      omega
  | some header =>
    rw [segment] at carried
    obtain ⟨several, index, cut⟩ := carried
    have size := cut.length_data_le
    rw [count_eq planned] at several
    show request.parameters.length + segmentHeadLength ≤ longestApdu config known
    rcases new_cases planned with ⟨-, rfl⟩ | ⟨long, rfl, -⟩
    · exact (Nat.lt_irrefl 1 several).elim
    · dsimp only [Payload.new, segmented] at size
      omega

/-- The first message is longer than it may be if there is no room for more than the head of a
segment. -/
theorem lt_length_opening (planned : new config parameters.length known = .ok plan)
    (narrow : longestApdu config known ≤ segmentHeadLength)
    (long : longestApdu config known < headLength + parameters.length) (invokeId service : UInt8) :
    longestApdu config known <
      (plan.opening config invokeId service parameters).encode.length := by
  unfold opening
  dsimp only
  split
  · next several =>
    rw [Apdu.length_encode_confirmedRequest]
    show _ < (parameters.take plan.segmentSize).length + segmentHeadLength
    have sized := segmentSize_pos planned
    have filled : ¬ parameters.length ≤ 1 * plan.segmentSize := by
      rw [← Payload.count_new_le_iff sized Nat.one_pos, count_eq planned]
      exact Nat.not_le.mpr several
    rw [List.length_take]
    omega
  · rw [Apdu.length_encode_confirmedRequest]
    show _ < parameters.length + headLength
    rwa [Nat.add_comm]

theorem exists_opening (plan : RequestPlan) (config : Config) (invokeId service : UInt8)
    (parameters : Octets) :
    ∃ request, plan.opening config invokeId service parameters = .confirmedRequest request := by
  unfold opening
  dsimp only
  split
  · exact ⟨_, rfl⟩
  · exact ⟨_, rfl⟩

end RequestPlan

/-! ## Requests -/

namespace Endpoint

variable {config : Config} {endpoint : Endpoint} {key : TransactionKey} {start : Nat}
  {peer : Address} {service : UInt8} {parameters : Octets} {known : Option Peer}

/-- Whatever happens in the life of a request, what is sent of it is cut as it has been planned. -/
theorem Invariant.conveys_request (invariant : endpoint.Invariant config)
    (granted : (endpoint.step start (.request peer service parameters known)).granted = some key) :
    ∃ plan, RequestPlan.new config parameters.length known = .ok plan ∧
      (endpoint.step start (.request peer service parameters known)).effectsOf key =
        [.send (plan.opening config key.invokeId service parameters)] ∧
      ∀ later, ∀ effect ∈
          (endpoint.step start (.request peer service parameters known)).effectsOf key ++
            (endpoint.step start (.request peer service parameters known)).endpoint.doneInLife key
              later,
        effect.Conveys (.new parameters plan.segmentSize) := by
  obtain ⟨plan, planned, opens, waits⟩ := invariant.waits_request granted
  have obeys := (ClientTransaction.utters_start config key.invokeId service parameters plan).conveys
    (ClientTransaction.poses_unsent config service parameters plan)
  rw [RequestPlan.start_eq planned] at obeys
  refine ⟨plan, planned, opens, fun later => List.forall_mem_append.mpr ⟨?_, ?_⟩⟩
  · rw [opens]
    exact obeys.effects
  · have begun := invariant_of_effect
      (effect_step endpoint start (.request peer service parameters known)) invariant
    refine (Transaction.steady_poses config key _).doneInLife begun ?_ later
    intro transaction found
    cases waits.found.symm.trans found
    exact obeys.fits _ _ rfl

/-- A request is refused, and nothing is sent, or it is sent as a whole or in segments, of which
there are no more than the peer is known to accept; in the whole life of its transaction nothing
else is sent of it. All messages that are sent of it are short enough for both this device and the
peer just if there is room for more than the head of a segment, or for the whole request. -/
theorem requests_within_limits_iff (config : Config) (earlier : List (Nat × EndpointEvent))
    (start : Nat) (peer : Address) (service : UInt8) (parameters : Octets) (known : Option Peer) :
    let longest := RequestPlan.longestApdu config known
    let made := ((new config).run earlier).step start (.request peer service parameters known)
    (made.granted = none → made.actions = []) ∧
    ∀ key, made.granted = some key →
      ((∀ later request, .send (.confirmedRequest request) ∈
          made.effectsOf key ++ made.endpoint.doneInLife key later →
            (Apdu.confirmedRequest request).encode.length ≤ longest) ↔
        RequestPlan.segmentHeadLength < longest ∨
          RequestPlan.headLength + parameters.length ≤ longest) ∧
      ∃ payload : Payload, payload.joined payload.count = parameters ∧
        (1 < payload.count → ∀ device ∈ known, ∀ limit ∈ device.maxSegments,
          payload.count ≤ limit) ∧
        ∀ later, ∀ effect ∈ made.effectsOf key ++ made.endpoint.doneInLife key later,
          effect.Conveys payload := by
  intro longest made
  refine ⟨?_, ?_⟩
  · intro refused
    rcases ((new config).run earlier).step_request start peer service parameters known with
      ⟨invokeIds, does⟩ | ⟨plan, id, invokeIds, -, -, does⟩
    · exact congrArg EndpointStep.actions does
    · cases (congrArg EndpointStep.granted does).symm.trans refused
  · intro key granted
    obtain ⟨plan, planned, opens, conveys⟩ :=
      (invariant_run (invariant_new config) earlier).conveys_request granted
    refine ⟨⟨?_, ?_⟩, .new parameters plan.segmentSize,
      Payload.joined_count (Payload.segmentSize_new _ _), ?_, conveys⟩
    · intro short
      by_contra none
      obtain ⟨narrow, long⟩ := not_or.mp none
      obtain ⟨request, same⟩ := plan.exists_opening config key.invokeId service parameters
      have first := short [] request (by
        rw [opens, same]
        exact List.mem_append_left _ (List.mem_singleton_self _))
      rw [← same] at first
      exact Nat.not_lt.mpr first (RequestPlan.lt_length_opening planned (Nat.not_lt.mp narrow)
        (Nat.not_le.mp long) key.invokeId service)
    · intro room later request sent
      exact RequestPlan.length_encode_le planned room (conveys later _ sent)
    · intro several device told limit limited
      rw [RequestPlan.count_eq planned] at several ⊢
      exact RequestPlan.segments_le planned several told limited

/-- A device that is known to accept four segments of 480 octets. -/
def fourSegments : Peer := ⟨some 9, 480, .both, some 4, some 5⟩

/-- A device that itself does not send more than 50 octets does not send more in the name of a
request of 100 octets, whatever happens in its life. -/
theorem requests_within_limits_iff_fourSegments :
    let made := (new shortMessages).step 0
      (.request (.ofMac [20]) 12 (List.replicate 100 1) (some fourSegments))
    made.granted = some (.client (.ofMac [20]) 1) ∧
    ∀ later request, .send (.confirmedRequest request) ∈
        made.effectsOf (.client (.ofMac [20]) 1) ++
          made.endpoint.doneInLife (.client (.ofMac [20]) 1) later →
      (Apdu.confirmedRequest request).encode.length ≤ 50 := by
  obtain ⟨-, each⟩ := requests_within_limits_iff shortMessages [] 0 (.ofMac [20]) 12
    (List.replicate 100 1) (some fourSegments)
  have granted : ((new shortMessages).step 0 (.request (.ofMac [20]) 12 (List.replicate 100 1)
      (some fourSegments))).granted = some (.client (.ofMac [20]) 1) := by decide +kernel
  obtain ⟨short, -⟩ := each _ granted
  exact ⟨granted, short.mpr (.inl (by decide))⟩

/-- A device announces that it accepts messages of six octets, which is as long as the head of a
segment. A request with three octets is not refused: its first segment has seven octets. -/
theorem exists_request_too_long :
    ∃ announced : IAm,
      let known := Peer.unknown.learnIAm announced
      let made := (new shortMessages).step 0 (.request (.ofMac [20]) 12 [1, 2, 3] (some known))
      made.granted = some (.client (.ofMac [20]) 1) ∧
      ∃ request, .send (.confirmedRequest request) ∈ made.effectsOf (.client (.ofMac [20]) 1) ∧
        RequestPlan.longestApdu shortMessages (some known) <
          (Apdu.confirmedRequest request).encode.length :=
  ⟨⟨⟨8, 9⟩, 6, .both, 5⟩, by decide +kernel,
    ⟨true, .two, .up50, 1, some ⟨0, 2, true⟩, 12, [1]⟩, by decide +kernel,
    by decide +kernel⟩

end Endpoint

end BACnet
