import BACnet.Proofs.Segment.Cut

/-!
# What the windows do

The laws of the two ends of a transfer, in terms of the indices of segments instead of their
sequence numbers: what a sender makes of an acknowledgment, and what a receiver makes of a segment.
They hold for messages of any length, as long as what arrives is less than 256 segments off.
-/

namespace BACnet

theorem toNat_clampWindow (size : UInt8) :
    (clampWindow size).toNat = max 1 (min size.toNat 127) := by
  rw [clampWindow, UInt8.toNat_max, UInt8.toNat_min]
  rfl

theorem clampWindow_clampWindow (size : UInt8) :
    clampWindow (clampWindow size) = clampWindow size := by
  apply UInt8.toNat_inj.mp
  rw [toNat_clampWindow (clampWindow size), toNat_clampWindow]
  omega

/-! ## Sending -/

namespace SendWindow

theorem cutFrom_of_segment? {window : SendWindow} {index : Nat} {segment : Segment}
    (found : window.segment? index = some segment) :
    segment.CutFrom window.payload index := by
  obtain ⟨data, cut, rfl⟩ := Option.map_eq_some_iff.mp found
  exact ⟨rfl, rfl, cut⟩

theorem windowSize_of_segment? {window : SendWindow} {segment : Segment}
    (found : window.segment? 0 = some segment) : segment.header.windowSize = window.proposed := by
  obtain ⟨data, _, rfl⟩ := Option.map_eq_some_iff.mp found
  rfl

theorem segment?_eq_none_iff {window : SendWindow} {index : Nat} :
    window.segment? index = none ↔ window.payload.count ≤ index := by
  rw [segment?, Option.map_eq_none_iff]
  constructor
  · intro absent
    apply Nat.not_lt.mp
    intro inside
    rw [Payload.segment?_eq_some inside] at absent
    cases absent
  · exact Payload.segment?_eq_none

/-- The segments that are sent are those with the asked indices, as far as the message goes. -/
theorem cutFrom_segments (window : SendWindow) (count index : Nat) :
    List.Forall₂ (Segment.CutFrom window.payload)
      (List.range' index (min count (window.payload.count - index)))
      (window.segments count index) := by
  induction count generalizing index with
  | zero => simp [segments]
  | succ count ih =>
    rw [segments]
    cases found : window.segment? index with
    | none =>
      have outside := segment?_eq_none_iff.mp found
      rw [Nat.sub_eq_zero_of_le outside, Nat.min_zero]
      exact .nil
    | some segment =>
      have cut := cutFrom_of_segment? found
      have inside := cut.lt_count
      have more : min (count + 1) (window.payload.count - index) =
          min count (window.payload.count - (index + 1)) + 1 := by omega
      rw [more, List.range'_succ]
      exact .cons cut (ih (index + 1))

theorem exists_cutFrom {window : SendWindow} {count index : Nat} {segment : Segment}
    (sent : segment ∈ window.segments count index) :
    ∃ index, segment.CutFrom window.payload index := by
  induction count generalizing index with
  | zero => cases sent
  | succ count ih =>
    unfold segments at sent
    split at sent
    · cases sent
    · next first found =>
      rcases List.mem_cons.mp sent with rfl | later
      · exact ⟨index, cutFrom_of_segment? found⟩
      · exact ih later

theorem exists_cutFrom_of_pending {window : SendWindow} {segment : Segment}
    (sent : segment ∈ window.pending) : ∃ index, segment.CutFrom window.payload index := by
  unfold pending at sent
  split at sent
  · exact exists_cutFrom sent
  · exact exists_cutFrom sent

theorem payload_acknowledge (window : SendWindow) (number granted : UInt8) :
    (window.acknowledge number granted).2.payload = window.payload := by
  unfold acknowledge
  dsimp only
  split
  · rfl
  · split <;> rfl

/-- An acknowledgment of the segment before the window is a repetition. -/
theorem acknowledge_behind {window : SendWindow} {last : Nat} (granted : UInt8)
    (behind : last + 1 = window.firstUnacked) :
    window.acknowledge (UInt8.ofNat last) granted =
      (.duplicate, { window with granted := clampWindow granted }) := by
  have gap : (UInt8.ofNat last - UInt8.ofNat window.firstUnacked).toNat = 255 := by
    rw [← behind, UInt8.toNat_sub, UInt8.toNat_ofNat', UInt8.toNat_ofNat']
    omega
  have outside : ¬ inWindow (UInt8.ofNat last) (UInt8.ofNat window.firstUnacked)
      (clampWindow granted) := by
    rw [inWindow, decide_eq_true_iff, UInt8.lt_iff_toNat_lt, gap, toNat_clampWindow]
    omega
  unfold acknowledge
  rw [if_pos outside]

/-- An acknowledgment of a segment of the window moves the window behind that segment; one of a
segment behind the window does not. -/
theorem acknowledge_ahead {window : SendWindow} {last : Nat} (granted : UInt8)
    (ahead : window.firstUnacked ≤ last) (near : last < window.firstUnacked + 256) :
    window.acknowledge (UInt8.ofNat last) granted =
      if (clampWindow granted).toNat ≤ last - window.firstUnacked then
        (.duplicate, { window with granted := clampWindow granted })
      else if window.payload.count ≤ last + 1 then
        (.complete, { window with granted := clampWindow granted })
      else
        (.advanced,
          { window with
            granted := clampWindow granted, firstUnacked := last + 1, retries := 0 }) := by
  have gap := Segment.toNat_sequenceNumber_sub ahead near
  have inside : inWindow (UInt8.ofNat last) (UInt8.ofNat window.firstUnacked)
      (clampWindow granted) = true ↔ last - window.firstUnacked < (clampWindow granted).toNat := by
    rw [inWindow, decide_eq_true_iff, UInt8.lt_iff_toNat_lt, gap]
  have acked : acknowledged { window with granted := clampWindow granted } (UInt8.ofNat last) =
      last + 1 := by
    rw [acknowledged, gap]
    show window.firstUnacked + (last - window.firstUnacked) + 1 = last + 1
    omega
  unfold acknowledge
  simp only [acked, inside, Nat.not_lt]

end SendWindow

/-! ## Receiving -/

namespace ReceiveWindow

/-- The window holds the segments of the message up to the one with the index `last`, and has room
for the others. -/
structure Holds (payload : Payload) (last : Nat) (window : ReceiveWindow) : Prop where
  inside : last < payload.count
  data : window.data = payload.joined (last + 1)
  last_eq : window.last = UInt8.ofNat last
  segments : window.reassembly.segments = last + 1
  roomForSegments : ∀ limit ∈ window.reassembly.maxSegments, payload.count ≤ limit
  roomForOctets : payload.data.length ≤ window.reassembly.maxLength

/-- The first segment of a message for which there is room opens a window. -/
theorem opened_holds {payload : Payload} {segment : Segment} (cut : segment.CutFrom payload 0)
    (asked own : UInt8) (maxSegments : Option Nat) (maxLength : Nat)
    (roomForSegments : ∀ limit ∈ maxSegments, payload.count ≤ limit)
    (roomForOctets : payload.data.length ≤ maxLength) :
    ∃ window, opened segment.data asked own maxSegments maxLength = .ok window ∧
      window.Holds payload 0 ∧ window.lastAcked = 0 ∧
      window.size = clampWindow (min asked own) := by
  have joined := Payload.joined_succ cut.data
  have short := Payload.length_joined_le cut.lt_count
  rw [joined, Payload.joined_zero, List.nil_append] at short
  have notFull : ¬ Reassembly.isFull ⟨[], 0, 0, maxSegments, maxLength⟩ = true := by
    rw [Reassembly.isFull, Option.any_eq_true]
    rintro ⟨limit, given, full⟩
    have room := roomForSegments limit given
    have some := payload.count_pos
    have few : limit ≤ 0 := decide_eq_true_iff.mp full
    omega
  have fits : ¬ maxLength < ([] : Octets).length + segment.data.length := by
    rw [List.length_nil]
    omega
  have pushed : Reassembly.new segment.data maxSegments maxLength =
      .ok ⟨[] ++ segment.data, 0, 0 + 1, maxSegments, maxLength⟩ := by
    rw [Reassembly.new, Reassembly.push, if_neg (not_or.mpr ⟨notFull, fits⟩)]
  refine ⟨_, by rw [opened, pushed]; rfl, ?_, rfl, rfl⟩
  exact {
    inside := cut.lt_count
    data := by rw [joined]; rfl
    last_eq := rfl
    segments := rfl
    roomForSegments := roomForSegments
    roomForOctets := roomForOctets }

variable {payload : Payload} {last index : Nat} {window : ReceiveWindow} {segment : Segment}

/-- It does not matter which sequence number was acknowledged last. -/
theorem Holds.acked (holds : window.Holds payload last) (lastAcked : UInt8) :
    Holds payload last { window with lastAcked } :=
  ⟨holds.inside, holds.data, holds.last_eq, holds.segments, holds.roomForSegments,
    holds.roomForOctets⟩

theorem Holds.expectedSequence (holds : window.Holds payload last) :
    window.reassembly.expectedSequence = UInt8.ofNat (last + 1) := by
  have same : window.reassembly.lastSequence = UInt8.ofNat last := holds.last_eq
  rw [Reassembly.expectedSequence, same, UInt8.ofNat_add]
  rfl

/-- The window after the next segment of the message. -/
def grown (window : ReceiveWindow) (segment : Segment) : ReceiveWindow :=
  { window with reassembly :=
      { window.reassembly with
        data := window.reassembly.data ++ segment.data
        segments := window.reassembly.segments + 1
        lastSequence := segment.header.sequenceNumber } }

theorem Holds.grown (holds : window.Holds payload last)
    (cut : segment.CutFrom payload (last + 1)) : (window.grown segment).Holds payload (last + 1) :=
  { inside := cut.lt_count
    data := by
      rw [Payload.joined_succ cut.data, ← holds.data]
      rfl
    last_eq := cut.sequenceNumber
    segments := congrArg (· + 1) holds.segments
    roomForSegments := holds.roomForSegments
    roomForOctets := holds.roomForOctets }

theorem Holds.append_next (holds : window.Holds payload last)
    (cut : segment.CutFrom payload (last + 1)) :
    window.reassembly.append segment.header.sequenceNumber segment.data =
      .ok (window.grown segment).reassembly := by
  have inside := cut.lt_count
  have notFull : ¬ window.reassembly.isFull = true := by
    rw [Reassembly.isFull, Option.any_eq_true]
    rintro ⟨limit, given, full⟩
    have room := holds.roomForSegments limit given
    rw [decide_eq_true_iff, holds.segments] at full
    omega
  have fits : ¬ window.reassembly.maxLength <
      window.reassembly.data.length + segment.data.length := by
    have short := Payload.length_joined_le cut.lt_count
    have room := holds.roomForOctets
    have data : window.reassembly.data = payload.joined (last + 1) := holds.data
    rw [Payload.joined_succ cut.data, List.length_append, ← data] at short
    omega
  rw [Reassembly.append, if_pos (cut.sequenceNumber.trans holds.expectedSequence.symm),
    Reassembly.push, if_neg (not_or.mpr ⟨notFull, fits⟩)]
  rfl

/-- The next segment of the message is taken. It is acknowledged if it is the last one of the
message or of its window. -/
theorem Holds.receive_next (holds : window.Holds payload last)
    (cut : segment.CutFrom payload (last + 1)) :
    window.receive segment =
      if payload.count ≤ last + 2 then .complete (window.grown segment)
      else if UInt8.ofNat (last + 1) = window.lastAcked + window.size then
        .windowFull { window.grown segment with lastAcked := UInt8.ofNat (last + 1) }
      else .accepted (window.grown segment) := by
  have final : ¬ segment.header.moreFollows = true ↔ payload.count ≤ last + 2 := by
    rw [cut.moreFollows_iff]
    omega
  unfold receive
  rw [holds.append_next cut]
  simp only [final, ← cut.sequenceNumber]
  rfl

/-- Any other segment that is less than 256 off is refused. -/
theorem Holds.receive_other (holds : window.Holds payload last)
    (cut : segment.CutFrom payload index)
    (other : index ≠ last + 1) (above : index < last + 1 + 256) (below : last + 1 < index + 256) :
    window.receive segment = .outOfOrder := by
  have violation : segment.header.sequenceNumber ≠ window.reassembly.expectedSequence := by
    rw [cut.sequenceNumber, holds.expectedSequence]
    intro same
    exact other (Segment.sequenceNumber_inj above below same)
  unfold receive Reassembly.append
  rw [if_neg violation]

end ReceiveWindow

end BACnet
