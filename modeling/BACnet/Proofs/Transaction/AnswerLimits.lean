import BACnet.Proofs.Segment.Window
import BACnet.Proofs.Transaction.Lifetime

/-!
# Answers within the limits of the client

A request tells how long a message may be that answers it, and of how many segments an answer may
consist. No answer, whole or in segments, new or repeated, is longer than that, whatever happens in
the life of the transaction. An answer that does not fit these limits is not sent at all: the client
is told once that the exchange is given up, and nothing is left of it
(`Endpoint.answers_within_limits`).
-/

namespace BACnet

/-- The octets of an answer are its parameters behind a head of three octets, or of five if it is a
segment. -/
theorem Apdu.length_encode_complexAck (ack : ComplexAck) :
    (complexAck ack).encode.length = ack.parameters.length +
      if ack.segment.isSome then ServerTransaction.segmentHeadLength
      else ServerTransaction.headLength := by
  obtain ⟨invokeId, segment, service, parameters⟩ := ack
  cases segment <;> rfl

/-- There is room for more than the head of a segment in all messages that a client can ask for. -/
theorem MaxApduSize.segmentHeadLength_lt (limit : MaxApduSize) :
    ServerTransaction.segmentHeadLength < limit.size := by
  cases limit <;> decide

/-- Whether the message is an answer with parameters, or a segment of one. -/
def TransactionEffect.isAnswer : TransactionEffect → Bool
  | .send (.complexAck _) => true
  | _ => false

namespace ServerTransaction

variable {config : Config} {invokeId : UInt8} {server : ServerTransaction}
  {reaction : Reaction ServerTransaction}

/-! ## What is sent of an answer -/

/-- The answer that is sent in segments, if one is. -/
def answering? (server : ServerTransaction) : Option Payload := server.sendWindow?.map (·.payload)

/-- What a reaction can be as far as the answer is concerned. An answer is given only while the
application works on the request, and it stays the same from then on. -/
inductive Tells (server : ServerTransaction) (invokeId : UInt8) :
    Reaction ServerTransaction → Prop where
  | ends {effects : List TransactionEffect} (silent : ∀ effect ∈ effects, effect.isAnswer = false) :
    Tells server invokeId ⟨effects, .finish⟩
  | ignores : Tells server invokeId .ignore
  | goesOn {effects : List TransactionEffect}
    (silent : ∀ effect ∈ effects, effect.isAnswer = false) {phase : ServerPhase} (span : Nat)
    (same : answering? { server with phase } = server.answering?) :
    Tells server invokeId ⟨effects, .restart { server with phase } span⟩
  /-- The whole answer is sent, and the exchange is over. -/
  | whole {parameters : Octets} (working : server.phase = .processing)
    (short : headLength + parameters.length ≤ server.maxApdu.size) :
    Tells server invokeId (conclude (server.answer invokeId none parameters))
  /-- Segments are sent of the answer that has been given, or is given now. -/
  | parts {segments : List Segment} {window : SendWindow} (span : Nat)
    (cut : ∀ segment ∈ segments, ∃ index, segment.CutFrom window.payload index)
    (given : server.answering? = some window.payload ∨ server.phase = .processing ∧
      window.payload.segmentSize + segmentHeadLength ≤ server.maxApdu.size) :
    Tells server invokeId ⟨server.sendSegments invokeId segments,
      .restart { server with phase := .segmentedResponse window } span⟩

theorem tells_abort (server : ServerTransaction) (reason : AbortReason) :
    Tells server invokeId (abort invokeId reason) := .ends (List.forall_mem_singleton.mpr rfl)

theorem tells_collect (collecting : server.answering? = none) (window : ReceiveWindow)
    (segment : Segment) : Tells server invokeId (server.collect config invokeId window segment) := by
  unfold collect
  split
  · exact tells_abort server _
  · exact .goesOn (List.forall_mem_singleton.mpr rfl) _ collecting.symm
  · exact .goesOn (List.forall_mem_nil _) _ collecting.symm
  · exact .goesOn (List.forall_mem_singleton.mpr rfl) _ collecting.symm
  · exact .goesOn (List.forall_mem_append.mpr
      ⟨List.forall_mem_singleton.mpr rfl, List.forall_mem_singleton.mpr rfl⟩) _ collecting.symm

theorem tells_startReceive (collecting : server.answering? = none) (segment : Segment) :
    Tells server invokeId (server.startReceive config invokeId segment) := by
  unfold startReceive
  split
  · exact tells_abort server _
  · split
    · exact tells_abort server _
    · split
      · exact tells_abort server _
      · split
        · exact .goesOn (List.forall_mem_singleton.mpr rfl) _ collecting.symm
        · exact .goesOn (List.forall_mem_append.mpr
            ⟨List.forall_mem_singleton.mpr rfl, List.forall_mem_singleton.mpr rfl⟩) _ collecting.symm

theorem tells_acknowledge {window : SendWindow} (sending : server.phase = .segmentedResponse window)
    (received : SegmentAck) :
    Tells server invokeId (server.acknowledge config invokeId window received) := by
  have answering : server.answering? = some window.payload := by
    rw [answering?, sendWindow?, sending]
    rfl
  have payload := window.payload_acknowledge received.sequenceNumber received.windowSize
  unfold acknowledge
  split
  next outcome next acknowledged =>
  rw [acknowledged] at payload
  have same : answering? { server with phase := .segmentedResponse next } = server.answering? :=
    (congrArg some payload).trans answering.symm
  dsimp only
  split
  · exact .goesOn (List.forall_mem_nil _) _ same
  · exact .ends (List.forall_mem_nil _)
  · exact .parts _ (fun _ => SendWindow.exists_cutFrom) (.inl same.symm)

theorem tells_receive (server : ServerTransaction) (config : Config) (invokeId : UInt8)
    (apdu : Apdu) : Tells server invokeId (server.receive config invokeId apdu) := by
  unfold receive
  split
  · exact .ends (List.forall_mem_nil _)
  · next window phase =>
    have collecting : server.answering? = none := by
      rw [answering?, sendWindow?, phase]
      rfl
    split
    · exact tells_collect collecting window _
    · exact tells_abort server _
  · next window phase => exact tells_acknowledge phase _
  · exact .ignores

theorem tells_timeout (server : ServerTransaction) (config : Config) (invokeId : UInt8) :
    Tells server invokeId (server.timeout config invokeId) := by
  unfold timeout
  split
  · exact .ends (List.forall_mem_nil _)
  · exact tells_abort server _
  · next window phase =>
    have answering : server.answering? = some window.payload := by
      rw [answering?, sendWindow?, phase]
      rfl
    split
    · exact .parts _ (fun _ => SendWindow.exists_cutFrom_of_pending) (.inl answering)
    · exact .ends (List.forall_mem_nil _)

/-- The size of the segments leaves room for their heads. -/
theorem segmentSize_add_headLength (parameters : Octets) (limit : MaxApduSize) :
    (Payload.new parameters (max (limit.size - segmentHeadLength) 1)).segmentSize +
      segmentHeadLength = limit.size := by
  have room := limit.segmentHeadLength_lt
  simp only [Payload.new]
  omega

theorem tells_respondComplex (working : server.phase = .processing) (config : Config)
    (invokeId : UInt8) (parameters : Octets) :
    Tells server invokeId (server.respondComplex config invokeId parameters) := by
  unfold respondComplex
  dsimp only
  split
  · next short => exact .whole working short
  · split
    · exact tells_abort server _
    · split
      · exact tells_abort server _
      · exact .parts _ (fun _ => SendWindow.exists_cutFrom_of_pending)
          (.inr ⟨working, Nat.le_of_eq (segmentSize_add_headLength parameters server.maxApdu)⟩)

theorem tells_respond (working : server.phase = .processing) (config : Config) (invokeId : UInt8)
    (outcome : Outcome) : Tells server invokeId (server.respond config invokeId outcome) := by
  unfold respond
  split
  · exact .ends (List.forall_mem_singleton.mpr rfl)
  · exact tells_respondComplex working config invokeId _
  · exact .ends (List.forall_mem_singleton.mpr rfl)
  · exact .ends (List.forall_mem_singleton.mpr rfl)
  · exact tells_abort server _
  · exact tells_abort server _

/-! ## Within the limits -/

/-- The transaction is about this request and knows its limits, and the answer that is sent in
segments, if one is, is cut so that its segments keep to them. -/
structure Heeds (request : ConfirmedRequest) (server : ServerTransaction) : Prop where
  service : server.service = request.service
  segmentedResponseAccepted : server.segmentedResponseAccepted = request.segmentedResponseAccepted
  maxApdu : server.maxApdu = request.maxApdu
  maxSegments : server.maxSegments = request.maxSegments
  short : ∀ payload, server.answering? = some payload →
    payload.segmentSize + segmentHeadLength ≤ request.maxApdu.size

/-- An answer is not longer than the client accepts. -/
def Short (request : ConfirmedRequest) (effect : TransactionEffect) : Prop :=
  ∀ ack, effect = .send (.complexAck ack) →
    (Apdu.complexAck ack).encode.length ≤ request.maxApdu.size

variable {request : ConfirmedRequest}

theorem short_of_silent {effects : List TransactionEffect}
    (silent : ∀ effect ∈ effects, effect.isAnswer = false) :
    ∀ effect ∈ effects, Short request effect := by
  rintro effect member ack rfl
  cases silent _ member

/-- Whatever happens to a transaction that heeds the limits, its answer does not exceed them. -/
theorem Tells.heeds (tells : Tells server invokeId reaction) (heeds : server.Heeds request) :
    reaction.Obeys (Short request) (Heeds request) := by
  cases tells with
  | ends silent => exact Reaction.obeys_finish (short_of_silent silent)
  | ignores => exact Reaction.obeys_ignore
  | goesOn silent span same =>
    exact Reaction.obeys_restart (short_of_silent silent)
      ⟨heeds.service, heeds.segmentedResponseAccepted, heeds.maxApdu, heeds.maxSegments,
        fun payload sending => heeds.short payload (same.symm.trans sending)⟩ span
  | @whole parameters working short =>
    refine Reaction.obeys_finish (List.forall_mem_singleton.mpr ?_)
    rintro _ ⟨⟩
    rw [Apdu.length_encode_complexAck, ← heeds.maxApdu, Nat.add_comm]
    exact short
  | @parts segments window span cut given =>
    have room : window.payload.segmentSize + segmentHeadLength ≤ request.maxApdu.size := by
      rcases given with sending | ⟨-, room⟩
      · exact heeds.short _ sending
      · rwa [heeds.maxApdu] at room
    refine Reaction.obeys_restart ?_
      ⟨heeds.service, heeds.segmentedResponseAccepted, heeds.maxApdu, heeds.maxSegments, ?_⟩ span
    · intro effect member
      obtain ⟨segment, sent, rfl⟩ := List.mem_map.mp member
      rintro _ ⟨⟩
      obtain ⟨index, cut⟩ := cut segment sent
      rw [Apdu.length_encode_complexAck]
      exact Nat.le_trans (Nat.add_le_add_right cut.length_data_le _) room
    · rintro _ ⟨⟩
      exact room

/-- The message carries nothing of an answer, or one segment of this answer. -/
def Carries (payload : Payload) (effect : TransactionEffect) : Prop :=
  ∀ ack, effect = .send (.complexAck ack) →
    ∃ header index, ack.segment = some header ∧
      Segment.CutFrom payload index ⟨header, ack.parameters⟩

theorem carries_sendSegments (server : ServerTransaction) {payload : Payload}
    {segments : List Segment} (cut : ∀ segment ∈ segments, ∃ index, segment.CutFrom payload index) :
    ∀ effect ∈ server.sendSegments invokeId segments, Carries payload effect := by
  intro effect member
  obtain ⟨segment, sent, rfl⟩ := List.mem_map.mp member
  rintro _ ⟨⟩
  obtain ⟨index, cut⟩ := cut segment sent
  exact ⟨segment.header, index, rfl, cut⟩

/-- A transaction that sends an answer in segments sends nothing else of it. -/
theorem Tells.carries (tells : Tells server invokeId reaction) {payload : Payload}
    (sending : server.answering? = some payload) :
    reaction.Obeys (Carries payload) fun next => next.answering? = some payload := by
  have quiet {effects : List TransactionEffect}
      (silent : ∀ effect ∈ effects, effect.isAnswer = false) :
      ∀ effect ∈ effects, Carries payload effect := by
    rintro effect member ack rfl
    cases silent _ member
  have idle (working : server.phase = .processing) : False := by
    rw [answering?, sendWindow?, working] at sending
    cases sending
  cases tells with
  | ends silent => exact Reaction.obeys_finish (quiet silent)
  | ignores => exact Reaction.obeys_ignore
  | goesOn silent span same =>
    refine Reaction.obeys_restart (quiet silent) ?_ span
    exact same.trans sending
  | whole working short => exact (idle working).elim
  | @parts segments window span cut given =>
    have same : window.payload = payload := by
      rcases given with known | ⟨working, -⟩
      · exact Option.some.inj (known.symm.trans sending)
      · exact (idle working).elim
    subst same
    refine Reaction.obeys_restart (server.carries_sendSegments cut) ?_ span
    rfl

/-- A transaction that goes on and does not send an answer in segments has sent nothing of one. -/
theorem Tells.silent (tells : Tells server invokeId reaction) {next : ServerTransaction}
    (goesOn : reaction.progress.leaves (some server) = some next)
    (unanswered : next.answering? = none) :
    ∀ effect ∈ reaction.effects, effect.isAnswer = false := by
  cases tells with
  | ends silent => exact silent
  | ignores => exact List.forall_mem_nil _
  | goesOn silent span same => exact silent
  | whole working short => cases goesOn
  | parts span cut given =>
    cases goesOn
    cases unanswered

/-! ## New requests -/

/-- A request that has just come. -/
def asked (request : ConfirmedRequest) : ServerTransaction :=
  ⟨request.service, request.segmentedResponseAccepted, request.maxApdu, request.maxSegments,
    .processing⟩

theorem heeds_asked (request : ConfirmedRequest) : (asked request).Heeds request :=
  ⟨rfl, rfl, rfl, rfl, nofun⟩

theorem tells_start (config : Config) (request : ConfirmedRequest) :
    Tells (asked request) request.invokeId (start config request) := by
  unfold start
  dsimp only
  split
  · exact .goesOn (List.forall_mem_singleton.mpr rfl) _ rfl
  · exact tells_startReceive rfl _

end ServerTransaction

/-- The transaction stands on the side that answers, in a state that is fit. -/
def Transaction.Answers (fit : ServerTransaction → Prop) : Transaction → Prop
  | client _ => False
  | server transaction => fit transaction

open ServerTransaction (Tells Heeds Short Carries)

section

variable {config : Config} {key : TransactionKey}

theorem Steady.of_tells {allowed : TransactionEffect → Prop} {fit : ServerTransaction → Prop}
    (each : ∀ server reaction, fit server → Tells server key.invokeId reaction →
      reaction.Obeys allowed fit) :
    Steady config key allowed (Transaction.Answers fit) where
  receives := by
    rintro (client | server) apdu fits
    · exact fits.elim
    · exact (each server _ fits (server.tells_receive config key.invokeId apdu)).map fun _ => id
  responds server outcome fits working :=
    (each server _ fits (server.tells_respond working config key.invokeId outcome)).map fun _ => id
  aborts := by
    rintro (client | server) reason fits
    · exact fits.elim
    · exact (each server _ fits (server.tells_abort reason)).map fun _ => id
  expires := by
    rintro (client | server) fits
    · exact fits.elim
    · exact (each server _ fits (server.tells_timeout config key.invokeId)).map fun _ => id

theorem ServerTransaction.exists_tells (server : ServerTransaction) (event : EndpointEvent) :
    ∃ reaction, Tells server key.invokeId reaction ∧
      event.reaction config key (some (.server server)) = reaction.map .server := by
  cases event with
  | receive peer apdu => exact ⟨_, server.tells_receive config key.invokeId apdu, rfl⟩
  | abort other reason => exact ⟨_, server.tells_abort reason, rfl⟩
  | expire => exact ⟨_, server.tells_timeout config key.invokeId, rfl⟩
  | respond peer invokeId outcome =>
    dsimp only [EndpointEvent.reaction]
    split
    · next working => exact ⟨_, server.tells_respond working config key.invokeId outcome, rfl⟩
    · exact ⟨.ignore, .ignores, rfl⟩
  | request _ _ _ _ | schedule _ _ | cancel _ => exact ⟨.ignore, .ignores, rfl⟩

end

/-! ## Answers of any length -/

namespace ConfirmedRequest

/-- An answer of this length can be sent in segments: this device sends segments, the client accepts
them, and it accepts as many as it takes if each is as long as the client accepts. -/
structure AdmitsSegments (request : ConfirmedRequest) (config : Config) (length : Nat) : Prop where
  transmits : config.segmentation.canTransmit = true
  accepted : request.segmentedResponseAccepted = true
  enough : ∀ limit ∈ request.maxSegments.count?,
    length ≤ limit * (request.maxApdu.size - ServerTransaction.segmentHeadLength)

end ConfirmedRequest

theorem MaxSegments.pos_of_count? {limits : MaxSegments} {limit : Nat}
    (known : limit ∈ limits.count?) : 0 < limit := by
  cases limits <;> cases known <;> decide

namespace ServerTransaction

variable {config : Config} {server : ServerTransaction} {request : ConfirmedRequest}
  {parameters : Octets}

theorem Heeds.respondComplex_whole (heeds : server.Heeds request) (config : Config)
    (short : headLength + parameters.length ≤ request.maxApdu.size) :
    server.respondComplex config request.invokeId parameters =
      conclude (.complexAck ⟨request.invokeId, none, request.service, parameters⟩) := by
  unfold respondComplex answer
  rw [heeds.maxApdu, heeds.service]
  exact if_pos short

/-- The segments of an answer are few enough just if they have room for all of it. -/
theorem Heeds.count_le_iff (heeds : server.Heeds request) (parameters : Octets) :
    server.maxSegments.count?.any
        (· < (Payload.new parameters (max (server.maxApdu.size - segmentHeadLength) 1)).count) =
          false ↔
      ∀ limit ∈ request.maxSegments.count?,
        parameters.length ≤ limit * (request.maxApdu.size - segmentHeadLength) := by
  have room := request.maxApdu.segmentHeadLength_lt
  have sized : max (request.maxApdu.size - segmentHeadLength) 1 =
      request.maxApdu.size - segmentHeadLength := by omega
  rw [heeds.maxSegments, heeds.maxApdu, sized, Option.any_eq_false]
  refine forall₂_congr fun limit known => ?_
  rw [← Payload.count_new_le_iff (Nat.sub_pos_of_lt room) (MaxSegments.pos_of_count? known)]
  simp

theorem Heeds.respondComplex_parts (heeds : server.Heeds request)
    (long : request.maxApdu.size < headLength + parameters.length)
    (admits : request.AdmitsSegments config parameters.length) :
    ∃ window : SendWindow,
      window.payload =
        Payload.new parameters (max (request.maxApdu.size - segmentHeadLength) 1) ∧
      (∀ limit ∈ request.maxSegments.count?, window.payload.count ≤ limit) ∧
      server.respondComplex config request.invokeId parameters =
        ⟨server.sendSegments request.invokeId window.pending,
          .restart { server with phase := .segmentedResponse window } config.segmentSpan⟩ := by
  have few := (heeds.count_le_iff parameters).mpr admits.enough
  refine ⟨.new (.new parameters (max (server.maxApdu.size - segmentHeadLength) 1))
    config.proposedWindow, by rw [heeds.maxApdu]; rfl, ?_, ?_⟩
  · intro limit known
    rw [← heeds.maxSegments] at known
    exact Nat.not_lt.mp (of_decide_eq_false ((Option.any_eq_false ..).mp few limit known))
  · unfold respondComplex
    dsimp only
    rw [if_neg (by rw [heeds.maxApdu]; exact Nat.not_le.mpr long),
      if_neg (by simp [admits.transmits, heeds.segmentedResponseAccepted, admits.accepted]),
      if_neg (by rw [few]; exact Bool.false_ne_true)]

theorem Heeds.respondComplex_refused (heeds : server.Heeds request)
    (long : request.maxApdu.size < headLength + parameters.length)
    (refuses : ¬ request.AdmitsSegments config parameters.length) :
    ∃ reason, server.respondComplex config request.invokeId parameters =
      abort request.invokeId reason := by
  unfold respondComplex
  dsimp only
  rw [if_neg (by rw [heeds.maxApdu]; exact Nat.not_le.mpr long)]
  split
  · exact ⟨_, rfl⟩
  · next able =>
    split
    · exact ⟨_, rfl⟩
    · next few =>
      obtain ⟨transmits, accepted⟩ := not_or.mp able
      refine absurd ⟨Decidable.not_not.mp transmits, ?_, ?_⟩ refuses
      · rw [← heeds.segmentedResponseAccepted]
        exact Decidable.not_not.mp accepted
      · exact (heeds.count_le_iff parameters).mp (Bool.eq_false_iff.mpr few)

end ServerTransaction

namespace Endpoint

/-- What comes of an answer with these parameters to a request. -/
structure AnswersWithin (config : Config) (request : ConfirmedRequest) (key : TransactionKey)
    (parameters : Octets) (answer : EndpointStep) : Prop where
  /-- An answer that is short enough is sent wholly, and the exchange is over. -/
  whole : ServerTransaction.headLength + parameters.length ≤ request.maxApdu.size →
    answer.effectsOf key =
        [.send (.complexAck ⟨request.invokeId, none, request.service, parameters⟩)] ∧
      answer.endpoint.transactions.find? key = none
  /-- Of a longer one nothing but segments are sent, if that is possible. They are not more than the
  client accepts, and give the answer when they are put together in their order. -/
  parts : request.maxApdu.size < ServerTransaction.headLength + parameters.length →
    request.AdmitsSegments config parameters.length →
      ∃ payload : Payload, payload.joined payload.count = parameters ∧
        (∀ limit ∈ request.maxSegments.count?, payload.count ≤ limit) ∧
        ∀ later, ∀ effect ∈ answer.effectsOf key ++ answer.endpoint.doneInLife key later,
          Carries payload effect
  /-- Otherwise the client is told that the exchange is given up, and it is over. -/
  refused : request.maxApdu.size < ServerTransaction.headLength + parameters.length →
    ¬ request.AdmitsSegments config parameters.length →
      ∃ reason, answer.effectsOf key = [.send (.abort true request.invokeId reason)] ∧
        answer.endpoint.transactions.find? key = none

variable {config : Config} {endpoint : Endpoint} {peer : Address} {invokeId : UInt8}

/-- A request on which the application works stands on the side that answers. -/
theorem exists_of_works (works : endpoint.works peer invokeId = true) :
    ∃ server, endpoint.transactions.find? (.server peer invokeId) = some (.server server) ∧
      server.phase = .processing := by
  have state := of_decide_eq_true works
  obtain ⟨transaction, found, processing⟩ := Option.map_eq_some_iff.mp state
  obtain ⟨⟨_, _, _, phase⟩⟩ | ⟨⟨_, _, _, _, phase⟩⟩ := transaction
  · cases phase <;> cases processing
  · cases phase with
    | processing => exact ⟨_, found, rfl⟩
    | _ => cases processing

/-- A request of another device stands on the side that answers. -/
theorem Invariant.exists_server (invariant : endpoint.Invariant config) {transaction : Transaction}
    (found : endpoint.transactions.find? (.server peer invokeId) = some transaction) :
    ∃ server, transaction = .server server := by
  have side := (invariant.sound.fits _ transaction found).side_eq
  cases transaction with
  | client client => cases side
  | server server => exact ⟨server, rfl⟩

/-- If the application works on a request after some events, then no answer is sent in segments
before them: it would still be sent. -/
theorem Invariant.unanswered_of_works (invariant : endpoint.Invariant config)
    {server : ServerTransaction}
    (found : endpoint.transactions.find? (.server peer invokeId) = some (.server server))
    {events : List (Nat × EndpointEvent)} (lives : endpoint.Lives (.server peer invokeId) events)
    (works : (endpoint.run events).works peer invokeId = true) : server.answering? = none := by
  cases sending : server.answering? with
  | none => rfl
  | some payload =>
    have steady : Steady config (.server peer invokeId) (Carries payload)
        (Transaction.Answers fun server => server.answering? = some payload) :=
      .of_tells fun _ _ sending tells => tells.carries sending
    obtain ⟨last, there, still⟩ := steady.run invariant (by
      intro transaction same
      cases found.symm.trans same
      exact sending) lives
    obtain ⟨worked, standing, processing⟩ := exists_of_works works
    cases there.symm.trans standing
    change worked.answering? = some payload at still
    rw [ServerTransaction.answering?, ServerTransaction.sendWindow?, processing] at still
    cases still

/-- If the application works on a request after some events, then nothing of an answer has been sent
with them. -/
theorem Invariant.silent_of_works (invariant : endpoint.Invariant config)
    {events : List (Nat × EndpointEvent)} (lives : endpoint.Lives (.server peer invokeId) events)
    (works : (endpoint.run events).works peer invokeId = true) :
    ∀ effect ∈ endpoint.doneInLife (.server peer invokeId) events, effect.isAnswer = false := by
  induction events generalizing endpoint with
  | nil => exact List.forall_mem_nil _
  | cons first rest ih =>
    obtain ⟨now, event⟩ := first
    obtain ⟨transaction, found⟩ := lives.exists_find?
    obtain ⟨next, left⟩ := lives.2.exists_find?
    have after := invariant_of_effect (effect_step endpoint now event) invariant
    rw [doneInLife, if_pos lives.1]
    refine List.forall_mem_append.mpr ⟨?_, ih after lives.2 works⟩
    by_cases selected : endpoint.selects? now event = some (.server peer invokeId)
    · obtain ⟨server, rfl⟩ := invariant.exists_server found
      obtain ⟨following, rfl⟩ := after.exists_server left
      have unanswered := after.unanswered_of_works left lives.2 works
      obtain ⟨reaction, tells, does⟩ :=
        @ServerTransaction.exists_tells config (.server peer invokeId) server event
      obtain ⟨effects, leaves⟩ := invariant.reacts_of_selects selected
      rw [found, does] at effects leaves
      rw [effects]
      refine tells.silent ?_ unanswered
      rw [left, Reaction.leaves_map] at leaves
      obtain ⟨_, goesOn, same⟩ := Option.map_eq_some_iff.mp leaves.symm
      cases same
      exact goesOn
    · rw [(invariant.passesBy_of_find? found selected).effectsOf_eq]
      exact List.forall_mem_nil _

/-- The application answers a request on which it works. -/
theorem Invariant.answersWithin (invariant : endpoint.Invariant config)
    {request : ConfirmedRequest} {server : ServerTransaction}
    (found : endpoint.transactions.find? (.server peer request.invokeId) = some (.server server))
    (working : server.phase = .processing) (heeds : server.Heeds request) (now : Nat)
    (parameters : Octets) :
    AnswersWithin config request (.server peer request.invokeId) parameters
      (endpoint.step now (.respond peer request.invokeId (.ok (.complex parameters)))) := by
  have after := invariant_of_effect (effect_step endpoint now
    (.respond peer request.invokeId (.ok (.complex parameters)))) invariant
  obtain ⟨effects, leaves⟩ := @Invariant.reacts_of_selects config endpoint
    (.server peer request.invokeId) invariant now
    (.respond peer request.invokeId (.ok (.complex parameters))) rfl
  have does : EndpointEvent.reaction config (.server peer request.invokeId) (some (.server server))
      (.respond peer request.invokeId (.ok (.complex parameters))) =
        (server.respondComplex config request.invokeId parameters).map .server := if_pos working
  rw [found, does] at effects leaves
  refine ⟨?_, ?_, ?_⟩
  · intro short
    rw [heeds.respondComplex_whole config short] at effects leaves
    exact ⟨effects, leaves⟩
  · intro long admits
    obtain ⟨window, payload, few, responds⟩ := heeds.respondComplex_parts long admits
    rw [responds] at effects leaves
    have sized := Payload.segmentSize_new parameters
      (max (request.maxApdu.size - ServerTransaction.segmentHeadLength) 1)
    refine ⟨window.payload, ?_, few, ?_⟩
    · rw [payload]
      exact Payload.joined_count sized
    · intro later
      have steady : Steady config (.server peer request.invokeId) (Carries window.payload)
          (Transaction.Answers fun server => server.answering? = some window.payload) :=
        .of_tells fun _ _ sending tells => tells.carries sending
      refine List.forall_mem_append.mpr ⟨?_, steady.doneInLife after ?_ later⟩
      · rw [effects]
        exact server.carries_sendSegments fun _ => SendWindow.exists_cutFrom_of_pending
      · intro transaction same
        cases leaves.symm.trans same
        exact rfl
  · intro long refuses
    obtain ⟨reason, responds⟩ := heeds.respondComplex_refused long refuses
    rw [responds] at effects leaves
    exact ⟨reason, effects, leaves⟩

/-- A request that comes to a device under a name that is not in use is answered within the limits
of the client. Whatever happens in the life of its transaction, no answer and no segment of one is
longer than the client accepts. While the application works on it, nothing of an answer has been
sent yet; when it gives the answer, this is sent wholly, or in segments if it is too long for that
and both sides can deal with its segments, or else the client is told once that the exchange is
given up, and it is over. -/
theorem answers_within_limits (config : Config) (earlier : List (Nat × EndpointEvent)) (start : Nat)
    (peer : Address) (request : ConfirmedRequest)
    (unused : ((new config).run earlier).transactions.find? (.server peer request.invokeId) =
      none) :
    let key := TransactionKey.server peer request.invokeId
    let opened := ((new config).run earlier).step start (.receive peer (.confirmedRequest request))
    (∀ later ack, .send (.complexAck ack) ∈
        opened.effectsOf key ++ opened.endpoint.doneInLife key later →
      (Apdu.complexAck ack).encode.length ≤ request.maxApdu.size) ∧
    ∀ before now parameters, opened.endpoint.Lives key before →
      (opened.endpoint.run before).works peer request.invokeId = true →
      (∀ ack, .send (.complexAck ack) ∉
        opened.effectsOf key ++ opened.endpoint.doneInLife key before) ∧
      AnswersWithin config request key parameters ((opened.endpoint.run before).step now
        (.respond peer request.invokeId (.ok (.complex parameters)))) := by
  intro key opened
  have invariant := invariant_run (invariant_new config) earlier
  have begun : opened.endpoint.Invariant config :=
    invariant_of_effect (effect_step _ start (.receive peer (.confirmedRequest request))) invariant
  have tells := ServerTransaction.tells_start config request
  have obeys := tells.heeds (ServerTransaction.heeds_asked request)
  obtain ⟨effects, leaves⟩ := @Invariant.reacts_of_selects config _ key invariant start
    (.receive peer (.confirmedRequest request)) rfl
  rw [unused] at effects leaves
  have fits : ∀ transaction, opened.endpoint.transactions.find? key = some transaction →
      transaction.Answers (Heeds request) := by
    intro transaction found
    rcases Progress.of_leaves_eq_some (leaves.symm.trans found) with ⟨-, absent⟩ | ⟨span, restarts⟩
    · cases absent
    · obtain ⟨server, goesOn, rfl⟩ := Reaction.exists_restart_of_map restarts
      exact obeys.fits server span goesOn
  have steady : Steady config key (Short request) (Transaction.Answers (Heeds request)) :=
    .of_tells fun _ _ heeds tells => tells.heeds heeds
  refine ⟨?_, ?_⟩
  · intro later ack sent
    refine List.forall_mem_append.mpr ⟨?_, steady.doneInLife begun fits later⟩ _ sent ack rfl
    rw [effects]
    exact obeys.effects
  · intro before now parameters lives works
    obtain ⟨server, found, working⟩ := exists_of_works works
    obtain ⟨transaction, there, heeds⟩ := steady.run begun fits lives
    cases there.symm.trans found
    refine ⟨fun ack sent => ?_, (invariant_run begun before).answersWithin found working heeds now
      parameters⟩
    rcases List.mem_append.mp sent with early | late
    · obtain ⟨transaction, stands⟩ := lives.exists_find?
      obtain ⟨first, rfl⟩ := begun.exists_server stands
      have unanswered := begun.unanswered_of_works stands lives works
      rw [effects] at early
      refine Bool.noConfusion (tells.silent ?_ unanswered _ early)
      rcases Progress.of_leaves_eq_some (leaves.symm.trans stands) with ⟨-, absent⟩ | ⟨_, restarts⟩
      · cases absent
      · obtain ⟨server, goesOn, same⟩ := Reaction.exists_restart_of_map restarts
        cases same
        rw [goesOn]
        rfl
    · cases begun.silent_of_works lives works _ late

/-- A client that accepts four segments of 50 octets makes a request. -/
def frugal : ConfirmedRequest := ⟨true, .four, .up50, 7, none, 12, [1]⟩

/-- The answer is given to this request, its first segment is acknowledged, and the next ones are
not. -/
def firstAcknowledged : List (Nat × EndpointEvent) :=
  [(2, .receive (.ofMac [20]) (.segmentAck ⟨false, false, 7, 0, 2⟩)),
    (2 + shortMessages.segmentSpan, .expire)]

/-- An answer of 100 octets is sent in three segments, of which the last two are sent twice. -/
theorem answers_within_limits_frugal :
    let opened := (new shortMessages).step 0 (.receive (.ofMac [20]) (.confirmedRequest frugal))
    let answer := opened.endpoint.step 1
      (.respond (.ofMac [20]) 7 (.ok (.complex (List.replicate 100 1))))
    let sent := answer.effectsOf (.server (.ofMac [20]) 7) ++
      answer.endpoint.doneInLife (.server (.ofMac [20]) 7) firstAcknowledged
    sent.length = 5 ∧ ∃ payload : Payload, payload.joined payload.count = List.replicate 100 1 ∧
      payload.count ≤ 4 ∧ ∀ effect ∈ sent, Carries payload effect := by
  obtain ⟨-, answered⟩ := answers_within_limits shortMessages [] 0 (.ofMac [20]) frugal
    (by decide +kernel)
  obtain ⟨-, within⟩ := answered [] 1 (List.replicate 100 1) (by decide +kernel)
    (by decide +kernel)
  obtain ⟨payload, joined, few, carries⟩ :=
    within.parts (by decide +kernel) ⟨rfl, rfl, by decide +kernel⟩
  exact ⟨by decide +kernel, payload, joined, few 4 rfl, carries firstAcknowledged⟩

end Endpoint

end BACnet
