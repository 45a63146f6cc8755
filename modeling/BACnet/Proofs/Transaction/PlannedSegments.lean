import BACnet.Proofs.Octets.Reading
import BACnet.Proofs.Segment.Window
import BACnet.Proofs.Transaction.Unanswered

/-!
# Segments as planned

A request is cut into as many segments as its plan says. The segments make up the message, in their
order (`Payload.flatten_segments`), and a receiver that has room for it puts it together again
(`Reassembly.exists_gather`), also if their numbers start over.

`Reassembly.appendInPlace` changes a reassembly write by write, so that what has been written before
an error stays. It is shown to write nothing before an error (`Reassembly.run_appendInPlace`).
-/

namespace BACnet

/-! ## The segments of a message -/

namespace Payload

variable {data : Octets} {size index : Nat}

/-- The segments in order. -/
def segments (payload : Payload) : List Octets :=
  (List.range payload.count).filterMap payload.segment?

theorem isSome_segment?_iff {payload : Payload} :
    (payload.segment? index).isSome = true ↔ index < payload.count := by
  rw [segment?]
  split <;> simp_all

theorem segments_eq_map (payload : Payload) :
    payload.segments = (List.range payload.count).map fun index =>
      (payload.data.drop (index * payload.segmentSize)).take payload.segmentSize := by
  rw [segments, ← List.filterMap_eq_map]
  refine List.filterMap_congr fun index member => ?_
  exact segment?_eq_some (List.mem_range.mp member)

theorem getElem?_segments (payload : Payload) (index : Nat) :
    payload.segments[index]? = payload.segment? index := by
  rw [segments_eq_map, List.getElem?_map, segment?]
  split
  · next inside => simp [inside]
  · next outside => simp [outside]

/-- The segments in order are the message. -/
theorem flatten_segments (payload : Payload) (sized : 0 < payload.segmentSize) :
    payload.segments.flatten = payload.data := by
  refine Eq.trans ?_ (joined_count sized)
  rw [segments_eq_map, joined, List.flatMap_def]
  refine congrArg _ (List.map_congr_left fun index member => ?_)
  rw [segment?_eq_some (List.mem_range.mp member), Option.getD_some]

/-- There are octets behind the segments in front of one that is there. -/
theorem lt_length_of_lt_count (inside : index < (new data size).count)
    (filled : 0 < index ∨ data ≠ []) : index * max size 1 < data.length := by
  rcases Nat.eq_zero_or_pos index with rfl | positive
  · rw [Nat.zero_mul]
    exact List.length_pos_of_ne_nil (filled.resolve_left (Nat.lt_irrefl 0))
  · have same : new data size = new data (max size 1) := by simp [new]
    rw [same] at inside
    have sized : 0 < max size 1 := Nat.lt_of_lt_of_le Nat.one_pos (Nat.le_max_right _ _)
    exact Nat.not_le.mp fun short =>
      Nat.not_le.mpr inside ((count_new_le_iff sized positive).mpr short)

/-- All segments but the last one have the size of the segments. -/
theorem exists_segment_of_not_last (more : index + 1 < (new data size).count) :
    ∃ octets, (new data size).segment? index = some octets ∧ octets.length = max size 1 := by
  refine ⟨_, segment?_eq_some (Nat.lt_of_succ_lt more), ?_⟩
  have behind := lt_length_of_lt_count more (.inl (Nat.succ_pos _))
  rw [Nat.succ_mul] at behind
  rw [List.length_take, List.length_drop]
  show min (max size 1) (data.length - index * max size 1) = max size 1
  omega

/-- Only an empty message has an empty last segment. -/
theorem last_segment_ne_nil (filled : data ≠ []) {octets : Octets}
    (last : (new data size).segment? ((new data size).count - 1) = some octets) : octets ≠ [] := by
  have inside := lt_count_of_segment? last
  have behind := lt_length_of_lt_count inside (.inr filled)
  rw [segment?_eq_some inside] at last
  rw [← Option.some.inj last]
  apply List.ne_nil_of_length_pos
  rw [List.length_take, List.length_drop]
  show 0 < min (max size 1) (data.length - _ * max size 1)
  omega

theorem isLast_iff_of_lt {payload : Payload} (inside : index < payload.count) :
    payload.isLast index = true ↔ index = payload.count - 1 := by
  rw [isLast_eq_true_iff]
  omega

end Payload

/-! ## Putting the segments together -/

namespace Reassembly

/-- Adds segments one after the other, the first of which has this index. -/
def feed (reassembly : Reassembly) (index : Nat) : List Octets → Except ReassemblyError Reassembly
  | [] => .ok reassembly
  | octets :: rest => do (← reassembly.append (UInt8.ofNat index) octets).feed (index + 1) rest

/-- Puts the segments of a message together, within limits on their number and on their octets. -/
def gather (maxSegments : Option Nat) (maxLength : Nat) (first : Octets) (rest : List Octets) :
    Except ReassemblyError Reassembly := do
  (← new first maxSegments maxLength).feed 1 rest

end Reassembly

variable {payload : Payload}

/-- The remaining segments complete the message. -/
theorem ReceiveWindow.Holds.feed {window : ReceiveWindow} {last : Nat}
    (holds : window.Holds payload last) (sized : 0 < payload.segmentSize) (rest : List Octets)
    (follow : ∀ offset : Nat, rest[offset]? = payload.segment? (last + 1 + offset)) :
    ∃ whole, window.reassembly.feed (last + 1) rest = .ok whole ∧ whole.data = payload.data ∧
      whole.segments = payload.count := by
  induction rest generalizing window last with
  | nil =>
    have ended : payload.count ≤ last + 1 := by
      rw [← Nat.not_lt, ← Payload.isSome_segment?_iff, ← Nat.add_zero (last + 1), ← follow 0]
      simp
    have all : last + 1 = payload.count := Nat.le_antisymm holds.inside ended
    refine ⟨window.reassembly, rfl, ?_, ?_⟩
    · rw [← Payload.joined_count sized, ← all]
      exact holds.data
    · rw [← all]
      exact holds.segments
  | cons octets more ih =>
    have cut : Segment.CutFrom payload (last + 1)
        ⟨⟨UInt8.ofNat (last + 1), 1, !payload.isLast (last + 1)⟩, octets⟩ :=
      ⟨rfl, rfl, (follow 0).symm⟩
    have added := holds.append_next cut
    have behind (offset : Nat) : more[offset]? = payload.segment? (last + 1 + 1 + offset) := by
      have next := follow (offset + 1)
      rwa [List.getElem?_cons_succ, ← Nat.add_assoc, Nat.add_right_comm] at next
    obtain ⟨whole, fed, same⟩ := ih (holds.grown cut) behind
    refine ⟨whole, ?_, same⟩
    dsimp only at added
    rw [Reassembly.feed, added]
    exact fed

namespace Reassembly

/-- A receiver that has room for the segments and for their octets puts the message together. -/
theorem exists_gather (sized : 0 < payload.segmentSize) {maxSegments : Option Nat}
    {maxLength : Nat} (roomForSegments : ∀ limit ∈ maxSegments, payload.count ≤ limit)
    (roomForOctets : payload.data.length ≤ maxLength) :
    ∃ first rest whole, payload.segments = first :: rest ∧
      gather maxSegments maxLength first rest = .ok whole ∧ whole.data = payload.data ∧
      whole.segments = payload.count := by
  cases cuts : payload.segments with
  | nil =>
    have some := payload.count_pos
    rw [← Payload.isSome_segment?_iff, ← Payload.getElem?_segments, cuts] at some
    cases some
  | cons first rest =>
    have follow (index : Nat) : (first :: rest)[index]? = payload.segment? index :=
      cuts ▸ payload.getElem?_segments index
    have cut : Segment.CutFrom payload 0 ⟨⟨0, 1, !payload.isLast 0⟩, first⟩ :=
      ⟨rfl, rfl, (follow 0).symm⟩
    obtain ⟨window, opened, holds, -⟩ :=
      ReceiveWindow.opened_holds cut 1 1 maxSegments maxLength roomForSegments roomForOctets
    obtain ⟨start, started, rfl⟩ := exists_of_map_eq_ok opened
    obtain ⟨whole, fed, same⟩ := holds.feed sized rest fun offset => by
      rw [Nat.zero_add, Nat.add_comm 1, ← follow, List.getElem?_cons_succ]
    refine ⟨first, rest, whole, rfl, ?_, same⟩
    dsimp only at started
    rw [gather, started]
    exact fed

/-! ## Changes in place -/

/-- A reassembly that is changed write by write. -/
abbrev InPlace := EStateM ReassemblyError Reassembly

/-- Adds the octets of one more segment in place. -/
def pushInPlace (octets : Octets) : InPlace Unit := do
  let reassembly ← get
  if reassembly.isFull then throw (.bufferOverflow reassembly.maxLength)
  if reassembly.maxLength < reassembly.data.length + octets.length then
    throw (.bufferOverflow reassembly.maxLength)
  modify fun reassembly => { reassembly with data := reassembly.data ++ octets }
  modify fun reassembly => { reassembly with segments := reassembly.segments + 1 }

/-- Adds the next segment in place. -/
def appendInPlace (sequenceNumber : UInt8) (octets : Octets) : InPlace Unit := do
  let expected := (← get).expectedSequence
  if sequenceNumber ≠ expected then throw (.sequenceViolation expected sequenceNumber)
  pushInPlace octets
  modify fun reassembly => { reassembly with lastSequence := sequenceNumber }

theorem run_pushInPlace (reassembly : Reassembly) (octets : Octets) :
    (pushInPlace octets).run reassembly =
      match reassembly.push octets with
      | .ok next => .ok () next
      | .error error => .error error reassembly := by
  by_cases full : reassembly.isFull = true
  · simp [pushInPlace, push, full]
  · by_cases long : reassembly.maxLength < reassembly.data.length + octets.length
    · simp [pushInPlace, push, full, long]
    · simp [pushInPlace, push, full, long]

/-- Nothing is written before an error. -/
theorem run_appendInPlace (reassembly : Reassembly) (sequenceNumber : UInt8) (octets : Octets) :
    (appendInPlace sequenceNumber octets).run reassembly =
      match reassembly.append sequenceNumber octets with
      | .ok next => .ok () next
      | .error error => .error error reassembly := by
  by_cases expected : sequenceNumber = reassembly.expectedSequence
  · simp only [appendInPlace, append, expected, ne_eq, ite_not, EStateM.run_bind, EStateM.run_get,
      ↓reduceIte, run_pushInPlace, EStateM.run_modify]
    cases reassembly.push octets <;> rfl
  · simp [appendInPlace, append, expected]

end Reassembly

/-! ## Requests -/

/-- A request that is planned is cut into as many segments as its plan says. Whatever the message
and the size of its segments: the segments are those below their number; in order they are the
message; all but the last one have the full size, which is at least one octet, and the last one is
not empty unless the message is. A receiver that has room for the segments and for their octets
puts the message together, and an error changes nothing of what it has. -/
theorem cut_as_planned :
    (∀ config parameters known plan, RequestPlan.new config parameters.length known = .ok plan →
      (Payload.new parameters plan.segmentSize).count = plan.segments) ∧
    (∀ data size, let payload := Payload.new data size
      (∀ index, (payload.segment? index).isSome = true ↔ index < payload.count) ∧
      (∀ index : Nat, payload.segments[index]? = payload.segment? index) ∧
      payload.segments.flatten = data ∧
      (∀ index, index + 1 < payload.count → ∃ octets,
        payload.segment? index = some octets ∧ octets.length = max size 1) ∧
      (data ≠ [] → ∀ octets, payload.segment? (payload.count - 1) = some octets → octets ≠ []) ∧
      (∀ index < payload.count, payload.isLast index = true ↔ index = payload.count - 1) ∧
      ∀ maxSegments maxLength, (∀ limit ∈ maxSegments, payload.count ≤ limit) →
        data.length ≤ maxLength → ∃ first rest whole, payload.segments = first :: rest ∧
          Reassembly.gather maxSegments maxLength first rest = .ok whole ∧ whole.data = data ∧
          whole.segments = payload.count) ∧
    ∀ reassembly sequenceNumber octets,
      (Reassembly.appendInPlace sequenceNumber octets).run reassembly =
        match reassembly.append sequenceNumber octets with
        | .ok next => .ok () next
        | .error error => .error error reassembly := by
  refine ⟨fun config parameters known plan planned => RequestPlan.count_eq planned,
    fun data size => ?_, Reassembly.run_appendInPlace⟩
  have sized := Payload.segmentSize_new data size
  exact ⟨fun index => Payload.isSome_segment?_iff, Payload.getElem?_segments _,
    Payload.flatten_segments _ sized, fun index => Payload.exists_segment_of_not_last,
    fun filled octets => Payload.last_segment_ne_nil filled,
    fun index => Payload.isLast_iff_of_lt,
    fun maxSegments maxLength => Reassembly.exists_gather sized⟩

/-- A request of 100 octets takes three messages of 50 octets. A message of 300 octets is put
together again from as many segments, whose numbers start over behind the 256th. -/
theorem cut_as_planned_beyond_numbers :
    RequestPlan.new Endpoint.shortMessages (List.replicate 100 1).length none = .ok ⟨44, 3⟩ ∧
    (Payload.new (List.replicate 100 1) 44).count = 3 ∧
    (Payload.new (List.replicate 300 7) 1).count = 300 ∧
    ∃ first rest whole, (Payload.new (List.replicate 300 7) 1).segments = first :: rest ∧
      Reassembly.gather (some 300) 300 first rest = .ok whole ∧
      whole.data = List.replicate 300 7 := by
  obtain ⟨planned, cut, -⟩ := cut_as_planned
  have plan : RequestPlan.new Endpoint.shortMessages (List.replicate 100 1).length none =
      .ok ⟨44, 3⟩ := by decide
  have segments : (Payload.new (List.replicate 100 1) 44).count = 3 :=
    planned Endpoint.shortMessages (List.replicate 100 1) none ⟨44, 3⟩ plan
  have count : (Payload.new (List.replicate 300 7) 1).count = 300 := by decide +kernel
  obtain ⟨-, -, -, -, -, -, gathers⟩ := cut (List.replicate 300 7) 1
  obtain ⟨first, rest, whole, cuts, gathered, data, -⟩ := gathers (some 300) 300
    (by rintro _ ⟨⟩; exact Nat.le_of_eq count) (Nat.le_of_eq List.length_replicate)
  exact ⟨plan, segments, count, first, rest, whole, cuts, gathered, data⟩

end BACnet
