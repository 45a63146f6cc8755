import BACnet.Transaction.Window
import Mathlib.Data.List.Forall2

/-!
# The segments of a message

What the two ends of a transfer have in common is the message and the way it is cut.
`Payload.joined` puts the first segments together again, and `Segment.CutFrom` says which segment of
the message a segment on its way is.

* `Payload.joined_eq_take`: the first segments are the first octets of the message.
* `Segment.sequenceNumber_inj`: segments less than 256 apart have different sequence numbers.
-/

namespace BACnet

/-! ## Putting segments together -/

namespace Payload

/-- The octets of the first `count` segments, one after the other. -/
def joined (payload : Payload) (count : Nat) : Octets :=
  (List.range count).flatMap fun index => (payload.segment? index).getD []

@[simp] theorem joined_zero (payload : Payload) : payload.joined 0 = [] := rfl

theorem joined_succ {payload : Payload} {index : Nat} {data : Octets}
    (found : payload.segment? index = some data) :
    payload.joined (index + 1) = payload.joined index ++ data := by
  simp [joined, List.range_succ, found]

theorem segmentSize_new (data : Octets) (size : Nat) : 0 < (Payload.new data size).segmentSize := by
  rw [Payload.new]
  exact Nat.lt_of_lt_of_le Nat.one_pos (Nat.le_max_right size 1)

theorem count_pos (payload : Payload) : 0 < payload.count := by
  unfold count segmentCount
  split
  · exact Nat.one_pos
  · exact Nat.lt_of_lt_of_le Nat.one_pos (Nat.le_max_right _ 1)

/-- The segments are enough for the whole message. -/
theorem length_le_count_mul (payload : Payload) (sized : 0 < payload.segmentSize) :
    payload.data.length ≤ payload.count * payload.segmentSize := by
  unfold count segmentCount
  rw [if_neg (Nat.ne_of_gt sized)]
  generalize payload.data.length = length
  generalize payload.segmentSize = size at sized
  have enough : length ≤ (length + size - 1) / size * size := by
    have split := Nat.div_add_mod (length + size - 1) size
    have small := Nat.mod_lt (length + size - 1) sized
    rw [Nat.mul_comm] at split
    omega
  exact Nat.le_trans enough (Nat.mul_le_mul_right size (Nat.le_max_left _ 1))

/-- A number of segments is enough if all of them together have room for the message. -/
theorem count_new_le_iff {data : Octets} {size limit : Nat} (sized : 0 < size)
    (positive : 0 < limit) : (new data size).count ≤ limit ↔ data.length ≤ limit * size := by
  have same : (new data size).segmentSize = size := Nat.max_eq_left sized
  constructor
  · intro few
    have long := (new data size).length_le_count_mul (same.symm ▸ sized)
    rw [same] at long
    exact Nat.le_trans long (Nat.mul_le_mul_right size few)
  · intro long
    unfold count segmentCount
    rw [same, if_neg (Nat.ne_of_gt sized)]
    refine Nat.max_le.mpr ⟨Nat.le_of_lt_succ ((Nat.div_lt_iff_lt_mul sized).mpr ?_), positive⟩
    show data.length + size - 1 < (limit + 1) * size
    rw [Nat.succ_mul]
    omega

theorem one_lt_count_new {data : Octets} {size : Nat} (sized : 0 < size)
    (long : size < data.length) : 1 < (new data size).count := by
  rwa [← Nat.not_le, count_new_le_iff sized Nat.one_pos, Nat.one_mul, Nat.not_le]

/-- A message that is not cut is one segment. -/
theorem count_new_whole (data : Octets) : (new data (max data.length 1)).count = 1 := by
  have sized : 0 < max data.length 1 := Nat.lt_of_lt_of_le Nat.one_pos (Nat.le_max_right _ _)
  refine Nat.le_antisymm ((count_new_le_iff sized Nat.one_pos).mpr ?_) (count_pos _)
  rw [Nat.one_mul]
  exact Nat.le_max_left _ _

theorem segment?_eq_some {payload : Payload} {index : Nat} (inside : index < payload.count) :
    payload.segment? index =
      some ((payload.data.drop (index * payload.segmentSize)).take payload.segmentSize) := by
  rw [segment?, if_pos inside]

theorem segment?_eq_none {payload : Payload} {index : Nat} (outside : payload.count ≤ index) :
    payload.segment? index = none := by
  rw [segment?, if_neg (Nat.not_lt.mpr outside)]

theorem lt_count_of_segment? {payload : Payload} {index : Nat} {data : Octets}
    (found : payload.segment? index = some data) : index < payload.count := by
  by_cases inside : index < payload.count
  · exact inside
  · rw [segment?_eq_none (Nat.not_lt.mp inside)] at found
    cases found

/-- The first segments are the first octets of the message. -/
theorem joined_eq_take {payload : Payload} {count : Nat} (inside : count ≤ payload.count) :
    payload.joined count = payload.data.take (count * payload.segmentSize) := by
  induction count with
  | zero => simp
  | succ index ih =>
    rw [joined_succ (segment?_eq_some inside), ih (Nat.le_of_succ_le inside), Nat.succ_mul,
      List.take_add]

theorem length_joined_le {payload : Payload} {count : Nat} (inside : count ≤ payload.count) :
    (payload.joined count).length ≤ payload.data.length := by
  rw [joined_eq_take inside]
  exact List.length_take_le' _ _

/-- All segments together are the message. -/
theorem joined_count {payload : Payload} (sized : 0 < payload.segmentSize) :
    payload.joined payload.count = payload.data := by
  rw [joined_eq_take (Nat.le_refl _)]
  exact List.take_of_length_le (payload.length_le_count_mul sized)

theorem isLast_eq_true_iff {payload : Payload} {index : Nat} :
    payload.isLast index = true ↔ payload.count ≤ index + 1 := by
  simp [isLast]

end Payload

/-! ## Segments on their way -/

namespace Segment

/-- The segment is the one with this index, whatever window it carries. -/
structure CutFrom (payload : Payload) (index : Nat) (segment : Segment) : Prop where
  sequenceNumber : segment.header.sequenceNumber = UInt8.ofNat index
  moreFollows : segment.header.moreFollows = !payload.isLast index
  data : payload.segment? index = some segment.data

theorem CutFrom.lt_count {payload : Payload} {index : Nat} {segment : Segment}
    (cut : CutFrom payload index segment) : index < payload.count :=
  Payload.lt_count_of_segment? cut.data

theorem CutFrom.length_data_le {payload : Payload} {index : Nat} {segment : Segment}
    (cut : CutFrom payload index segment) : segment.data.length ≤ payload.segmentSize := by
  have data := cut.data
  rw [Payload.segment?_eq_some cut.lt_count] at data
  rw [← Option.some.inj data]
  exact List.length_take_le _ _

theorem CutFrom.moreFollows_iff {payload : Payload} {index : Nat} {segment : Segment}
    (cut : CutFrom payload index segment) :
    segment.header.moreFollows = true ↔ index + 1 < payload.count := by
  rw [cut.moreFollows, Bool.not_eq_true', ← Bool.not_eq_true, Payload.isLast_eq_true_iff]
  omega

/-- Sequence numbers count modulo 256, so they tell how far apart two indices are if that is less
than 256. -/
theorem toNat_sequenceNumber_sub {low high : Nat} (ordered : low ≤ high)
    (near : high < low + 256) : (UInt8.ofNat high - UInt8.ofNat low).toNat = high - low := by
  rw [UInt8.toNat_sub, UInt8.toNat_ofNat', UInt8.toNat_ofNat']
  omega

/-- Segments less than 256 apart have different sequence numbers. -/
theorem sequenceNumber_inj {a b : Nat} (above : a < b + 256) (below : b < a + 256)
    (same : UInt8.ofNat a = UInt8.ofNat b) : a = b := by
  have residue := congrArg UInt8.toNat same
  rw [UInt8.toNat_ofNat', UInt8.toNat_ofNat'] at residue
  omega

end Segment

end BACnet
