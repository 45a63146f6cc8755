import BACnet.Proofs.Segment.Window
import Mathlib.Logic.Relation

/-!
# Transfers over lossy links

A message in segments crosses a link that keeps the order of what it carries, but may lose any of it
and deliver any of it several times in a row. The acknowledgments come back over a link of the same
kind, and the sender may run out of patience at any time.

Sequence numbers start over after 256 segments, so a late segment or acknowledgment could pass for a
fresh one. It does not: `Consistent` says how far what is on its way can be off, and
`safe_of_reachable` what follows for the message.
-/

namespace BACnet

/-- What a transfer is about: the message and its cut, the windows that its ends would use, and the
room at the receiver. -/
structure TransferPlan where
  message : Octets
  segmentSize : Nat
  /-- The window that the sender proposes. -/
  proposed : UInt8
  /-- The window that the receiver would propose. -/
  own : UInt8
  /-- The number of octets that the receiver has room for. -/
  maxLength : Nat
  admitted : message.length ≤ maxLength

/-- The message in segments. -/
def TransferPlan.payload (plan : TransferPlan) : Payload := .new plan.message plan.segmentSize

/-- What a receiver sends back: the sequence number of its last segment, and its window. -/
structure WindowAck where
  sequenceNumber : UInt8
  windowSize : UInt8
  deriving DecidableEq, Repr

/-- A transfer over links that may lose and repeat. -/
structure LossyTransfer where
  sender : SendWindow
  /-- Nothing before the first segment has arrived. -/
  receiver : Option ReceiveWindow
  /-- The segments on their way, the oldest first. -/
  segments : List Segment
  /-- The acknowledgments on their way, the oldest first. -/
  acks : List WindowAck
  /-- Whether the receiver has reported the message complete. -/
  received : Bool
  /-- Whether the sender has reported the message complete. -/
  acknowledged : Bool
  deriving DecidableEq, Repr

namespace LossyTransfer

/-! ## Steps -/

/-- The transfer whose first segment has been sent. -/
def start (plan : TransferPlan) : LossyTransfer :=
  let sender := SendWindow.new plan.payload plan.proposed
  ⟨sender, none, sender.pending, [], false, false⟩

/-- The sender has waited long enough. -/
def timeout (transfer : LossyTransfer) : LossyTransfer :=
  { transfer with segments := transfer.segments ++ transfer.sender.pending }

/-- The receiver goes on with this window, and acknowledges its last segment. -/
def answer (transfer : LossyTransfer) (window : ReceiveWindow) : LossyTransfer :=
  { transfer with
    receiver := some window
    acks := transfer.acks ++ [⟨window.last, window.size⟩] }

/-- The first segment reaches the receiver. -/
def firstArrives (plan : TransferPlan) (transfer : LossyTransfer) (segment : Segment) :
    LossyTransfer :=
  match ReceiveWindow.opened segment.data segment.header.windowSize plan.own none
    plan.maxLength with
  | .error _ => transfer
  | .ok window => { transfer.answer window with received := !segment.header.moreFollows }

/-- A segment reaches the receiver, which has had others before. -/
def nextArrives (transfer : LossyTransfer) (window : ReceiveWindow) (segment : Segment) :
    LossyTransfer :=
  match window.receive segment with
  | .overflow => transfer
  | .outOfOrder => transfer.answer window
  | .accepted next => { transfer with receiver := some next }
  | .windowFull next => transfer.answer next
  | .complete next => { transfer.answer next with received := true }

/-- A segment reaches the receiver. -/
def segmentArrives (plan : TransferPlan) (transfer : LossyTransfer) (segment : Segment) :
    LossyTransfer :=
  match transfer.receiver with
  | none => transfer.firstArrives plan segment
  | some window => transfer.nextArrives window segment

/-- An acknowledgment reaches the sender. -/
def ackArrives (transfer : LossyTransfer) (ack : WindowAck) : LossyTransfer :=
  match transfer.sender.acknowledge ack.sequenceNumber ack.windowSize with
  | (.duplicate, sender) => { transfer with sender }
  | (.complete, sender) => { transfer with sender, acknowledged := true }
  | (.advanced, sender) =>
    { transfer with sender, segments := transfer.segments ++ sender.current }

/-- What can happen. What arrives is the oldest of what is on its way; it may arrive again. -/
inductive Step (plan : TransferPlan) : LossyTransfer → LossyTransfer → Prop where
  | timeout {transfer} : Step plan transfer transfer.timeout
  | loseSegments {transfer left} (fewer : left.Sublist transfer.segments) :
    Step plan transfer { transfer with segments := left }
  | loseAcks {transfer left} (fewer : left.Sublist transfer.acks) :
    Step plan transfer { transfer with acks := left }
  | deliverSegment {transfer segment rest} (oldest : transfer.segments = segment :: rest) :
    Step plan transfer { transfer.segmentArrives plan segment with segments := rest }
  | repeatSegment {transfer segment rest} (oldest : transfer.segments = segment :: rest) :
    Step plan transfer (transfer.segmentArrives plan segment)
  | deliverAck {transfer ack rest} (oldest : transfer.acks = ack :: rest) :
    Step plan transfer { transfer.ackArrives ack with acks := rest }
  | repeatAck {transfer ack rest} (oldest : transfer.acks = ack :: rest) :
    Step plan transfer (transfer.ackArrives ack)

/-- What a transfer can come to. -/
def Reachable (plan : TransferPlan) (transfer : LossyTransfer) : Prop :=
  Relation.ReflTransGen (Step plan) (start plan) transfer

/-- The segments on their way stay as they are when one of them arrives. -/
theorem segments_segmentArrives (plan : TransferPlan) (transfer : LossyTransfer)
    (segment : Segment) : (transfer.segmentArrives plan segment).segments = transfer.segments := by
  unfold segmentArrives firstArrives nextArrives answer
  repeat' split
  all_goals rfl

/-- The acknowledgments on their way stay as they are when one of them arrives. -/
theorem acks_ackArrives (transfer : LossyTransfer) (ack : WindowAck) :
    (transfer.ackArrives ack).acks = transfer.acks := by
  unfold ackArrives
  split <;> rfl

/-! ## Views -/

/-- The number of segments that the receiver has taken. -/
def accepted (transfer : LossyTransfer) : Nat :=
  (transfer.receiver.map (·.reassembly.segments)).getD 0

/-- The octets that the receiver has put together. -/
def data (transfer : LossyTransfer) : Octets :=
  (transfer.receiver.map (·.data)).getD []

/-! ## What is on its way -/

/-- What is left of a list that is described element by element is described by a part of the
description. -/
theorem exists_sublist_of_forall₂ {α β : Type} {related : α → β → Prop} {all : List β}
    {left : List β} (fewer : left.Sublist all) :
    ∀ {description : List α}, List.Forall₂ related description all →
      ∃ part, part.Sublist description ∧ List.Forall₂ related part left := by
  induction fewer with
  | slnil => exact fun described => ⟨_, .refl _, described⟩
  | cons lost _ ih =>
    intro description described
    obtain ⟨first, others, _, rest, rfl⟩ := List.forall₂_cons_right_iff.mp described
    obtain ⟨part, smaller, kept⟩ := ih rest
    exact ⟨part, smaller.cons first, kept⟩
  | cons_cons kept _ ih =>
    intro description described
    obtain ⟨first, others, fits, rest, rfl⟩ := List.forall₂_cons_right_iff.mp described
    obtain ⟨part, smaller, described⟩ := ih rest
    exact ⟨first :: part, smaller.cons_cons first, .cons fits described⟩

/-- The state of a transfer in terms of indices. The segments on their way have the indices `sent`,
and the acknowledgments on their way are those of the segments `acked`.

A segment is at most 127 behind and 126 before the next one that the receiver takes, and an
acknowledgment is at most one behind the window of the sender: this is what keeps sequence numbers
apart. -/
structure Consistent (plan : TransferPlan) (transfer : LossyTransfer) (sent acked : List Nat) :
    Prop where
  payload : transfer.sender.payload = plan.payload
  granted : transfer.sender.granted.toNat ≤ 127
  holds : ∀ window, transfer.receiver = some window → ∃ last, window.Holds plan.payload last
  segments : List.Forall₂ (Segment.CutFrom plan.payload) sent transfer.segments
  acks : List.Forall₂ (fun index ack => ack.sequenceNumber = UInt8.ofNat index) acked transfer.acks
  unacked_le : transfer.sender.firstUnacked ≤ transfer.accepted
  accepted_le : transfer.accepted ≤ transfer.sender.firstUnacked + 127
  sent_le : ∀ index ∈ sent, index ≤ transfer.sender.firstUnacked + 126
  accepted_near : ∀ index ∈ sent, transfer.accepted ≤ index + 127
  sent_order : sent.Pairwise fun early late => early ≤ late + 126
  closed : transfer.receiver = none → ∀ index ∈ sent, index = 0
  acked_lt : ∀ index ∈ acked, index < transfer.accepted
  acked_near : ∀ index ∈ acked, transfer.sender.firstUnacked ≤ index + 1
  acked_order : acked.Pairwise fun early late => early ≤ late
  received_iff : transfer.received = true ↔ transfer.accepted = plan.payload.count
  received_of_acknowledged : transfer.acknowledged = true → transfer.received = true

theorem accepted_of_holds {payload : Payload} {transfer : LossyTransfer} {window : ReceiveWindow}
    {last : Nat} (opened : transfer.receiver = some window) (holds : window.Holds payload last) :
    transfer.accepted = last + 1 := by
  rw [accepted, opened]
  exact holds.segments

variable {plan : TransferPlan} {transfer : LossyTransfer} {sent acked : List Nat}

theorem Consistent.accepted_le_count (consistent : Consistent plan transfer sent acked) :
    transfer.accepted ≤ plan.payload.count := by
  cases opened : transfer.receiver with
  | none =>
    rw [accepted, opened]
    exact Nat.zero_le _
  | some window =>
    obtain ⟨last, holds⟩ := consistent.holds window opened
    rw [accepted_of_holds opened holds]
    exact holds.inside

/-! ## What the steps keep -/

/-- Segments of the current window may be sent at any time, but before the receiver has had any only
the first one. -/
theorem Consistent.send (consistent : Consistent plan transfer sent acked) {indices : List Nat}
    {segments : List Segment} (cut : List.Forall₂ (Segment.CutFrom plan.payload) indices segments)
    (inWindow : ∀ index ∈ indices, transfer.sender.firstUnacked ≤ index ∧
      index ≤ transfer.sender.firstUnacked + 126)
    (closed : transfer.receiver = none → ∀ index ∈ indices, index = 0) :
    Consistent plan { transfer with segments := transfer.segments ++ segments }
      (sent ++ indices) acked := by
  have unacked := consistent.accepted_le
  refine { consistent with
    segments := List.rel_append consistent.segments cut
    sent_le := ?_, accepted_near := ?_, sent_order := ?_, closed := ?_ }
  · intro index member
    rcases List.mem_append.mp member with old | new
    · exact consistent.sent_le index old
    · exact (inWindow index new).2
  · intro index member
    show transfer.accepted ≤ index + 127
    rcases List.mem_append.mp member with old | new
    · exact consistent.accepted_near index old
    · have := (inWindow index new).1
      omega
  · refine List.pairwise_append.mpr ⟨consistent.sent_order, ?_, ?_⟩
    · apply List.pairwise_of_forall_mem_list
      intro early first late second
      have := (inWindow early first).2
      have := (inWindow late second).1
      omega
    · intro early old late new
      have := consistent.sent_le early old
      have := (inWindow late new).1
      omega
  · intro none index member
    rcases List.mem_append.mp member with old | new
    · exact consistent.closed none index old
    · exact closed none index new

/-- The sender may take note of what the receiver has taken, up to the oldest acknowledgment. -/
theorem Consistent.moveTo (consistent : Consistent plan transfer sent acked) (sender : SendWindow)
    (payload : sender.payload = transfer.sender.payload) (granted : sender.granted.toNat ≤ 127)
    (forward : transfer.sender.firstUnacked ≤ sender.firstUnacked)
    (taken : sender.firstUnacked ≤ transfer.accepted)
    (near : ∀ index ∈ acked, sender.firstUnacked ≤ index + 1) :
    Consistent plan { transfer with sender } sent acked :=
  { consistent with
    payload := payload.trans consistent.payload
    granted := granted
    unacked_le := taken
    accepted_le := Nat.le_trans consistent.accepted_le (Nat.add_le_add_right forward 127)
    sent_le := fun index member =>
      Nat.le_trans (consistent.sent_le index member) (Nat.add_le_add_right forward 126)
    acked_near := near }

/-- The receiver acknowledges its last segment. -/
theorem Consistent.answer (consistent : Consistent plan transfer sent acked)
    {window : ReceiveWindow} {last : Nat} (opened : transfer.receiver = some window)
    (holds : window.Holds plan.payload last) :
    Consistent plan (transfer.answer window) sent (acked ++ [last]) := by
  have same : transfer.answer window =
      { transfer with acks := transfer.acks ++ [⟨window.last, window.size⟩] } := by
    rw [LossyTransfer.answer, ← opened]
  have taken := accepted_of_holds opened holds
  have unacked := consistent.unacked_le
  rw [same]
  refine { consistent with
    acks := List.rel_append consistent.acks (.cons holds.last_eq .nil)
    acked_lt := ?_, acked_near := ?_, acked_order := ?_ }
  · intro index member
    show index < transfer.accepted
    rcases List.mem_append.mp member with old | new
    · exact consistent.acked_lt index old
    · rw [List.mem_singleton.mp new]
      omega
  · intro index member
    show transfer.sender.firstUnacked ≤ index + 1
    rcases List.mem_append.mp member with old | new
    · exact consistent.acked_near index old
    · rw [List.mem_singleton.mp new]
      omega
  · refine List.pairwise_append.mpr ⟨consistent.acked_order, List.pairwise_singleton _ _, ?_⟩
    intro early old late new
    have := consistent.acked_lt early old
    rw [List.mem_singleton.mp new]
    omega

/-- The receiver takes the segment that is the next one. -/
theorem Consistent.grow {index : Nat} {later : List Nat}
    (consistent : Consistent plan transfer (index :: later) acked)
    (next : index = transfer.accepted) {window : ReceiveWindow}
    (holds : window.Holds plan.payload index) (received : Bool)
    (reports : received = true ↔ index + 1 = plan.payload.count) :
    Consistent plan { transfer with receiver := some window, received } (index :: later) acked := by
  have taken : accepted { transfer with receiver := some window, received } = index + 1 :=
    accepted_of_holds rfl holds
  have unacked := consistent.unacked_le
  have ahead := consistent.sent_le index List.mem_cons_self
  refine { consistent with
    holds := ?_, unacked_le := ?_, accepted_le := ?_, accepted_near := ?_, closed := ?_
    acked_lt := ?_, received_iff := ?_, received_of_acknowledged := ?_ }
  · rintro other ⟨⟩
    exact ⟨index, holds⟩
  · rw [taken]
    show transfer.sender.firstUnacked ≤ index + 1
    omega
  · rw [taken]
    show index + 1 ≤ transfer.sender.firstUnacked + 127
    omega
  · intro late member
    rw [taken]
    rcases List.mem_cons.mp member with rfl | member
    · omega
    · have := List.rel_of_pairwise_cons consistent.sent_order member
      omega
  · intro none
    cases none
  · intro old member
    have := consistent.acked_lt old member
    rw [taken]
    omega
  · rw [taken]
    exact reports
  · -- all segments had been taken before, so none could be the next one
    intro acknowledged
    have full := consistent.received_iff.mp (consistent.received_of_acknowledged acknowledged)
    have inside := holds.inside
    omega

theorem Consistent.loseSegments (consistent : Consistent plan transfer sent acked)
    {left : List Segment} (fewer : left.Sublist transfer.segments) :
    ∃ sent, Consistent plan { transfer with segments := left } sent acked := by
  obtain ⟨part, smaller, described⟩ := exists_sublist_of_forall₂ fewer consistent.segments
  exact ⟨part, { consistent with
    segments := described
    sent_le := fun index member => consistent.sent_le index (smaller.subset member)
    accepted_near := fun index member => consistent.accepted_near index (smaller.subset member)
    sent_order := consistent.sent_order.sublist smaller
    closed := fun none index member => consistent.closed none index (smaller.subset member) }⟩

theorem Consistent.loseAcks (consistent : Consistent plan transfer sent acked)
    {left : List WindowAck} (fewer : left.Sublist transfer.acks) :
    ∃ acked, Consistent plan { transfer with acks := left } sent acked := by
  obtain ⟨part, smaller, described⟩ := exists_sublist_of_forall₂ fewer consistent.acks
  exact ⟨part, { consistent with
    acks := described
    acked_lt := fun index member => consistent.acked_lt index (smaller.subset member)
    acked_near := fun index member => consistent.acked_near index (smaller.subset member)
    acked_order := consistent.acked_order.sublist smaller }⟩

/-! ## Steps keep the state consistent -/

theorem consistent_start (plan : TransferPlan) : ∃ sent, Consistent plan (start plan) sent [] := by
  have cut := SendWindow.cutFrom_segments (SendWindow.new plan.payload plan.proposed) 1 0
  have zero : ∀ index ∈ List.range' 0 (min 1 (plan.payload.count - 0)), index = 0 := by
    intro index member
    have := (List.mem_range'_1.mp member).2
    omega
  refine ⟨_, {
    payload := rfl
    granted := ?_
    holds := nofun
    segments := cut
    acks := .nil
    unacked_le := Nat.le_refl 0
    accepted_le := Nat.zero_le _
    sent_le := fun index member => by rw [zero index member]; exact Nat.zero_le _
    accepted_near := fun _ _ => Nat.zero_le _
    sent_order := ?_
    closed := fun _ => zero
    acked_lt := nofun
    acked_near := nofun
    acked_order := .nil
    received_iff := ?_
    received_of_acknowledged := nofun }⟩
  · show (clampWindow plan.proposed).toNat ≤ 127
    rw [toNat_clampWindow]
    omega
  · apply List.pairwise_of_forall_mem_list
    intro early first late _
    rw [zero early first]
    omega
  · have some := plan.payload.count_pos
    constructor
    · nofun
    · intro (none : 0 = plan.payload.count)
      omega

/-- The segments of the window lie less than 127 behind its first one. -/
theorem mem_current {window : SendWindow} (granted : window.granted.toNat ≤ 127) {index : Nat}
    (member : index ∈ List.range' window.firstUnacked
      (min window.granted.toNat (window.payload.count - window.firstUnacked))) :
    window.firstUnacked ≤ index ∧ index ≤ window.firstUnacked + 126 := by
  have := List.mem_range'_1.mp member
  omega

theorem Consistent.timeout (consistent : Consistent plan transfer sent acked) :
    ∃ sent, Consistent plan transfer.timeout sent acked := by
  have cut := transfer.sender.cutFrom_segments
  rw [consistent.payload] at cut
  unfold LossyTransfer.timeout SendWindow.pending
  split
  · next unmoved =>
    refine ⟨_, consistent.send (cut 1 0) ?_ ?_⟩
    · intro index member
      have := List.mem_range'_1.mp member
      omega
    · intro _ index member
      have := List.mem_range'_1.mp member
      omega
  · next moved =>
    refine ⟨_, consistent.send (cut _ _) ?_ ?_⟩
    · rw [← consistent.payload]
      exact fun index member => mem_current consistent.granted member
    · intro none
      have unacked := consistent.unacked_le
      rw [accepted, none] at unacked
      exact absurd (Nat.le_zero.mp unacked) moved

/-- The segment that opens the window of the receiver is the first one. -/
theorem Consistent.firstArrives {index : Nat} {later : List Nat}
    (consistent : Consistent plan transfer (index :: later) acked) {segment : Segment}
    (cut : segment.CutFrom plan.payload index) (closed : transfer.receiver = none) :
    ∃ acked, Consistent plan (transfer.firstArrives plan segment) (index :: later) acked := by
  have taken : transfer.accepted = 0 := by
    rw [accepted, closed]
    rfl
  obtain rfl := consistent.closed closed index List.mem_cons_self
  obtain ⟨window, opens, holds, -, -⟩ :=
    ReceiveWindow.opened_holds cut segment.header.windowSize plan.own none plan.maxLength nofun
      plan.admitted
  have reports : (!segment.header.moreFollows) = true ↔ 0 + 1 = plan.payload.count := by
    have some := plan.payload.count_pos
    rw [Bool.not_eq_true', ← Bool.not_eq_true, cut.moreFollows_iff]
    omega
  have grown := consistent.grow taken.symm holds _ reports
  rw [LossyTransfer.firstArrives, opens]
  exact ⟨_, grown.answer rfl holds⟩

/-- Of later segments the sequence number tells whether it is the next one, because all that are on
their way are near. -/
theorem Consistent.nextArrives {index : Nat} {later : List Nat}
    (consistent : Consistent plan transfer (index :: later) acked) {segment : Segment}
    (cut : segment.CutFrom plan.payload index) {window : ReceiveWindow}
    (opened : transfer.receiver = some window) :
    ∃ acked, Consistent plan (transfer.nextArrives window segment) (index :: later) acked := by
  obtain ⟨last, holds⟩ := consistent.holds window opened
  have taken := accepted_of_holds opened holds
  have unacked := consistent.unacked_le
  have behind := consistent.accepted_near index List.mem_cons_self
  have ahead := consistent.sent_le index List.mem_cons_self
  unfold LossyTransfer.nextArrives
  by_cases next : index = last + 1
  · subst next
    have inside := cut.lt_count
    rw [holds.receive_next cut]
    by_cases final : plan.payload.count ≤ last + 2
    · rw [if_pos final]
      have grown := consistent.grow taken.symm (holds.grown cut) true
        (iff_of_true rfl (by omega))
      exact ⟨_, grown.answer rfl (holds.grown cut)⟩
    · have unreceived : transfer.received = true ↔ last + 1 + 1 = plan.payload.count := by
        rw [consistent.received_iff]
        omega
      rw [if_neg final]
      by_cases full : UInt8.ofNat (last + 1) = window.lastAcked + window.size
      · have holds := (holds.grown cut).acked (UInt8.ofNat (last + 1))
        rw [if_pos full]
        exact ⟨_, (consistent.grow taken.symm holds _ unreceived).answer rfl holds⟩
      · rw [if_neg full]
        exact ⟨_, consistent.grow taken.symm (holds.grown cut) _ unreceived⟩
  · -- A late or early segment is less than 256 off, so it is refused.
    rw [holds.receive_other cut next (by omega) (by omega)]
    exact ⟨_, consistent.answer opened holds⟩

/-- The oldest segment arrives. -/
theorem Consistent.segmentArrives (consistent : Consistent plan transfer sent acked)
    {segment : Segment} {rest : List Segment} (oldest : transfer.segments = segment :: rest) :
    ∃ acked, Consistent plan (transfer.segmentArrives plan segment) sent acked := by
  have described := consistent.segments
  rw [oldest] at described
  obtain ⟨index, later, cut, -, rfl⟩ := List.forall₂_cons_right_iff.mp described
  unfold LossyTransfer.segmentArrives
  split
  · next closed => exact consistent.firstArrives cut closed
  · next window opened => exact consistent.nextArrives cut opened

/-- The oldest acknowledgment arrives. It is the last one that has been noted, or one ahead. -/
theorem Consistent.ackArrives (consistent : Consistent plan transfer sent acked)
    {ack : WindowAck} {rest : List WindowAck} (oldest : transfer.acks = ack :: rest) :
    ∃ sent, Consistent plan (transfer.ackArrives ack) sent acked := by
  have described := consistent.acks
  rw [oldest] at described
  obtain ⟨last, later, number, -, rfl⟩ := List.forall₂_cons_right_iff.mp described
  have unacked := consistent.unacked_le
  have accepted_le := consistent.accepted_le
  have near := consistent.acked_near last List.mem_cons_self
  have taken := consistent.acked_lt last List.mem_cons_self
  have granted : (clampWindow ack.windowSize).toNat ≤ 127 := by
    rw [toNat_clampWindow]
    omega
  have repeated : Consistent plan
      { transfer with sender := { transfer.sender with granted := clampWindow ack.windowSize } }
      sent (last :: later) :=
    consistent.moveTo _ rfl granted (Nat.le_refl _) unacked consistent.acked_near
  unfold LossyTransfer.ackArrives
  rw [number]
  by_cases behind : last + 1 = transfer.sender.firstUnacked
  · -- The window has moved since.
    rw [SendWindow.acknowledge_behind ack.windowSize behind]
    exact ⟨_, repeated⟩
  rw [SendWindow.acknowledge_ahead ack.windowSize (by omega) (by omega)]
  by_cases beyond : (clampWindow ack.windowSize).toNat ≤ last - transfer.sender.firstUnacked
  · -- The window that is granted now is smaller than the one that was sent.
    rw [if_pos beyond]
    exact ⟨_, repeated⟩
  rw [if_neg beyond]
  by_cases final : transfer.sender.payload.count ≤ last + 1
  · rw [if_pos final]
    refine ⟨_, { repeated with received_of_acknowledged := fun _ => ?_ }⟩
    rw [consistent.payload] at final
    have := consistent.accepted_le_count
    apply consistent.received_iff.mpr
    omega
  · rw [if_neg final]
    have moved := consistent.moveTo { transfer.sender with
        granted := clampWindow ack.windowSize, firstUnacked := last + 1, retries := 0 }
      rfl granted (by show _ ≤ last + 1; omega) taken
      (by
        intro index member
        rcases List.mem_cons.mp member with rfl | member
        · exact Nat.le_refl _
        · exact Nat.succ_le_succ (List.rel_of_pairwise_cons consistent.acked_order member))
    have cut := SendWindow.cutFrom_segments { transfer.sender with
      granted := clampWindow ack.windowSize, firstUnacked := last + 1, retries := 0 }
    refine ⟨_, moved.send (consistent.payload ▸ cut _ _) ?_ ?_⟩
    · rw [← consistent.payload]
      exact fun index member => mem_current granted member
    · intro (none : transfer.receiver = none)
      rw [accepted, none] at taken
      exact absurd taken (Nat.not_lt_zero last)

/-! ## Safety -/

/-- What arrives for the last time is lost afterwards, so a step keeps the state consistent if the
arrival and the loss do. -/
theorem Consistent.step (consistent : Consistent plan transfer sent acked) {next : LossyTransfer}
    (step : Step plan transfer next) : ∃ sent acked, Consistent plan next sent acked := by
  cases step with
  | timeout =>
    obtain ⟨sent, kept⟩ := consistent.timeout
    exact ⟨sent, acked, kept⟩
  | loseSegments fewer =>
    obtain ⟨sent, kept⟩ := consistent.loseSegments fewer
    exact ⟨sent, acked, kept⟩
  | loseAcks fewer =>
    obtain ⟨acked, kept⟩ := consistent.loseAcks fewer
    exact ⟨sent, acked, kept⟩
  | @deliverSegment segment rest oldest =>
    obtain ⟨acked, kept⟩ := consistent.segmentArrives oldest
    have unsent := segments_segmentArrives plan transfer segment
    have fewer : rest.Sublist (transfer.segmentArrives plan segment).segments := by
      rw [unsent, oldest]
      exact List.sublist_cons_self segment rest
    obtain ⟨sent, kept⟩ := kept.loseSegments fewer
    exact ⟨sent, acked, kept⟩
  | repeatSegment oldest =>
    obtain ⟨acked, kept⟩ := consistent.segmentArrives oldest
    exact ⟨sent, acked, kept⟩
  | @deliverAck ack rest oldest =>
    obtain ⟨sent, kept⟩ := consistent.ackArrives oldest
    have unsent := acks_ackArrives transfer ack
    have fewer : rest.Sublist (transfer.ackArrives ack).acks := by
      rw [unsent, oldest]
      exact List.sublist_cons_self ack rest
    obtain ⟨acked, kept⟩ := kept.loseAcks fewer
    exact ⟨sent, acked, kept⟩
  | repeatAck oldest =>
    obtain ⟨sent, kept⟩ := consistent.ackArrives oldest
    exact ⟨sent, acked, kept⟩

theorem Reachable.consistent (reachable : Reachable plan transfer) :
    ∃ sent acked, Consistent plan transfer sent acked := by
  induction reachable with
  | refl =>
    obtain ⟨sent, start⟩ := consistent_start plan
    exact ⟨sent, [], start⟩
  | tail _ step ih =>
    obtain ⟨sent, acked, consistent⟩ := ih
    exact consistent.step step

/-- The octets that have arrived are those of the segments that have been taken. -/
theorem Consistent.data_eq (consistent : Consistent plan transfer sent acked) :
    transfer.data = plan.payload.joined transfer.accepted := by
  cases opened : transfer.receiver with
  | none =>
    rw [data, accepted, opened]
    rfl
  | some window =>
    obtain ⟨last, holds⟩ := consistent.holds window opened
    rw [accepted_of_holds opened holds, data, opened]
    exact holds.data

theorem Consistent.data_of_received (consistent : Consistent plan transfer sent acked)
    (received : transfer.received = true) : transfer.data = plan.message := by
  rw [consistent.data_eq, consistent.received_iff.mp received]
  exact Payload.joined_count (Payload.segmentSize_new _ _)

/-- Whatever the links lose and repeat, and whenever the sender runs out of patience: what has
arrived is the message up to some segment, the sender does not believe that more of it has arrived,
the receiver reports the message complete only when it is, and the sender only after the receiver.
-/
theorem safe_of_reachable {plan : TransferPlan} {transfer : LossyTransfer}
    (reachable : Reachable plan transfer) :
    transfer.data = plan.payload.joined transfer.accepted ∧
      transfer.sender.firstUnacked ≤ transfer.accepted ∧
      (transfer.received = true → transfer.data = plan.message) ∧
      (transfer.acknowledged = true →
        transfer.received = true ∧ transfer.data = plan.message) := by
  obtain ⟨sent, acked, consistent⟩ := reachable.consistent
  refine ⟨consistent.data_eq, consistent.unacked_le, consistent.data_of_received, ?_⟩
  intro acknowledged
  have received := consistent.received_of_acknowledged acknowledged
  exact ⟨received, consistent.data_of_received received⟩

/-- A message of three octets, each in a segment of its own, in windows of two. -/
def threeOctets : TransferPlan := ⟨[1, 2, 3], 1, 2, 2, 3, by decide⟩

/-- A segment arrives twice, an acknowledgment is lost and the sender runs out of patience. The
message is complete in spite of it. -/
theorem safe_of_reachable_disturbed :
    ∃ transfer, Reachable threeOctets transfer ∧ transfer.segments.length = 2 ∧
      transfer.acknowledged = true ∧ transfer.data = [1, 2, 3] := by
  have sent : Reachable threeOctets (start threeOctets) := .refl
  have taken := sent.tail (.repeatSegment (show _ = [⟨⟨0, 2, true⟩, [1]⟩] by decide))
  have takenAgain := taken.tail (.deliverSegment (show _ = [⟨⟨0, 2, true⟩, [1]⟩] by decide))
  have lost := takenAgain.tail (.loseAcks (show List.Sublist [⟨0, 2⟩] _ by decide))
  have granted := lost.tail (.deliverAck (show _ = [⟨0, 2⟩] by decide))
  have sentAgain := granted.tail .timeout
  have second := sentAgain.tail (.deliverSegment (show _ = ⟨⟨1, 2, true⟩, [2]⟩ ::
    [⟨⟨2, 2, false⟩, [3]⟩, ⟨⟨1, 2, true⟩, [2]⟩, ⟨⟨2, 2, false⟩, [3]⟩] by decide))
  have third := second.tail (.deliverSegment (show _ = ⟨⟨2, 2, false⟩, [3]⟩ ::
    [⟨⟨1, 2, true⟩, [2]⟩, ⟨⟨2, 2, false⟩, [3]⟩] by decide))
  have complete := third.tail (.deliverAck (show _ = [⟨2, 2⟩] by decide))
  exact ⟨_, complete, by decide, by decide, ((safe_of_reachable complete).2.2.2 (by decide)).2⟩

end LossyTransfer

end BACnet
