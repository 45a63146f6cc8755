import BACnet.Proofs.Segment.Window

/-!
# Transfers over links that keep everything

On a link that loses and repeats nothing a transfer advances in lockstep: the sender sends the
segments of a window, the receiver acknowledges the last of them, and the sender goes on behind it.
The two ends agree on where a window ends (`Flow.edge`), so that neither waits in vain for the
other.
-/

namespace BACnet

/-- A message in several segments, and the windows that its two ends would use. -/
structure Flow where
  payload : Payload
  /-- The window that the sender proposes. -/
  proposed : UInt8
  /-- The window that the receiver would propose. -/
  own : UInt8
  sized : 0 < payload.segmentSize
  several : 1 < payload.count

namespace Flow

/-- The size of the windows. -/
def size (flow : Flow) : UInt8 := clampWindow (min (clampWindow flow.proposed) flow.own)

/-- The number of segments up to the end of the window that starts with this one. The first window
is the first segment alone. -/
def edge (flow : Flow) (first : Nat) : Nat :=
  if first = 0 then 1 else min (first + flow.size.toNat) flow.payload.count

variable {flow : Flow} {first last : Nat}

theorem size_pos (flow : Flow) : 0 < flow.size.toNat := by
  rw [size, toNat_clampWindow]
  omega

theorem size_le (flow : Flow) : flow.size.toNat ≤ 127 := by
  rw [size, toNat_clampWindow]
  omega

theorem clampWindow_size (flow : Flow) : clampWindow flow.size = flow.size :=
  clampWindow_clampWindow _

theorem edge_zero (flow : Flow) : flow.edge 0 = 1 := rfl

theorem edge_of_pos (flow : Flow) (started : 0 < first) :
    flow.edge first = min (first + flow.size.toNat) flow.payload.count := by
  rw [edge, if_neg (Nat.ne_of_gt started)]

theorem lt_edge (inside : first < flow.payload.count) : first < flow.edge first := by
  have some := flow.size_pos
  unfold edge
  split <;> omega

theorem edge_le_count (flow : Flow) (first : Nat) : flow.edge first ≤ flow.payload.count := by
  have several := flow.several
  unfold edge
  split <;> omega

/-- The window of the sender starts with the segment `first`. -/
structure Sends (flow : Flow) (first : Nat) (send : SendWindow) : Prop where
  payload_eq : send.payload = flow.payload
  firstUnacked_eq : send.firstUnacked = first
  inside : first < flow.payload.count

/-- The segments on their way are those from one index up to another one. -/
def InFlight (flow : Flow) (taken edge : Nat) (segments : List Segment) : Prop :=
  List.Forall₂ (Segment.CutFrom flow.payload) (List.range' taken (edge - taken)) segments

/-- The receiver has taken the segments up to `last`, and acknowledged those up to the end of the
window that starts with `first` or, if it still waits for some of them, those before this window. -/
structure Takes (flow : Flow) (first last : Nat) (window : ReceiveWindow) : Prop where
  holds : window.Holds flow.payload last
  first_le : first ≤ last + 1
  last_lt : last < flow.edge first
  size_eq : window.size = flow.size
  lastAcked_eq : window.lastAcked =
    UInt8.ofNat (if last + 1 = flow.edge first then last else first - 1)

theorem inFlight_nil {taken : Nat} {segments : List Segment}
    (flight : flow.InFlight taken taken segments) : segments = [] := by
  rw [InFlight, Nat.sub_self] at flight
  cases flight
  rfl

theorem InFlight.cons {taken edge : Nat} {segments : List Segment}
    (flight : flow.InFlight taken edge segments) (more : taken < edge) :
    ∃ segment rest, segments = segment :: rest ∧ segment.CutFrom flow.payload taken ∧
      flow.InFlight (taken + 1) edge rest := by
  have step : edge - taken = edge - (taken + 1) + 1 := by omega
  rw [InFlight, step, List.range'_succ] at flight
  cases flight with
  | cons cut rest => exact ⟨_, _, rfl, cut, rest⟩

/-! ## The first segment -/

theorem sends_new (flow : Flow) : flow.Sends 0 (.new flow.payload flow.proposed) :=
  ⟨rfl, rfl, Nat.lt_of_succ_lt flow.several⟩

/-- At first the first segment alone is sent, and asks for a window. -/
theorem pending_new (flow : Flow) :
    ∃ segment, (SendWindow.new flow.payload flow.proposed).pending = [segment] ∧
      segment.CutFrom flow.payload 0 ∧
      segment.header.windowSize = clampWindow flow.proposed := by
  have inside : 0 < flow.payload.count := Nat.lt_of_succ_lt flow.several
  cases found : (SendWindow.new flow.payload flow.proposed).segment? 0 with
  | none => exact absurd (SendWindow.segment?_eq_none_iff.mp found) (Nat.not_le.mpr inside)
  | some segment =>
    refine ⟨segment, ?_, SendWindow.cutFrom_of_segment? found,
      SendWindow.windowSize_of_segment? found⟩
    show SendWindow.segments _ 1 0 = [segment]
    rw [SendWindow.segments, found]
    rfl

/-- A receiver that has room opens a window for the first segment. -/
theorem opened_takes {segment : Segment} (cut : segment.CutFrom flow.payload 0)
    (asks : segment.header.windowSize = clampWindow flow.proposed) (maxSegments : Option Nat)
    (maxLength : Nat) (roomForSegments : ∀ limit ∈ maxSegments, flow.payload.count ≤ limit)
    (roomForOctets : flow.payload.data.length ≤ maxLength) :
    ∃ window, ReceiveWindow.opened segment.data segment.header.windowSize flow.own maxSegments
        maxLength = .ok window ∧ flow.Takes 0 0 window := by
  obtain ⟨window, opened, holds, lastAcked, size⟩ := ReceiveWindow.opened_holds cut
    segment.header.windowSize flow.own maxSegments maxLength roomForSegments roomForOctets
  refine ⟨window, opened, holds, Nat.zero_le _, Nat.one_pos, ?_, lastAcked⟩
  rw [size, asks, Flow.size]

/-! ## The next segments -/

/-- Whether the segment behind `last` is the one that the receiver takes for the last of its window:
it is if the window ends with it. -/
theorem Takes.full_iff {window : ReceiveWindow} (takes : flow.Takes first last window)
    (more : last + 1 < flow.edge first) :
    UInt8.ofNat (last + 1) = window.lastAcked + window.size ↔
      last + 2 = first + flow.size.toNat := by
  have started : 0 < first := by
    apply Nat.pos_of_ne_zero
    rintro rfl
    rw [edge_zero] at more
    omega
  have reach := flow.edge_of_pos started
  have behind := takes.first_le
  have small := flow.size_le
  have acked : window.lastAcked + window.size = UInt8.ofNat (first - 1 + flow.size.toNat) := by
    rw [takes.lastAcked_eq, if_neg (Nat.ne_of_lt more), takes.size_eq, UInt8.ofNat_add,
      UInt8.ofNat_toNat]
  rw [acked]
  constructor
  · intro same
    -- Both are numbers of segments less than 256 apart, so they tell the indices.
    have := Segment.sequenceNumber_inj (by omega) (by omega) same
    omega
  · intro full
    have same : last + 1 = first - 1 + flow.size.toNat := by omega
    rw [same]

/-- What the receiver makes of the next segment. -/
inductive TakesNext (flow : Flow) (first last : Nat) : Receipt → Prop where
  /-- The message is complete. -/
  | complete {next : ReceiveWindow} (final : last + 2 = flow.payload.count)
    (data : next.data = flow.payload.data) (last_eq : next.last = UInt8.ofNat (last + 1))
    (size_eq : next.size = flow.size) : TakesNext flow first last (.complete next)
  /-- The window is complete. -/
  | windowFull {next : ReceiveWindow} (full : last + 2 = flow.edge first)
    (more : last + 2 < flow.payload.count) (takes : flow.Takes first (last + 1) next) :
    TakesNext flow first last (.windowFull next)
  /-- More segments of the window will come. -/
  | accepted {next : ReceiveWindow} (more : last + 2 < flow.edge first)
    (takes : flow.Takes first (last + 1) next) : TakesNext flow first last (.accepted next)

theorem Takes.next {window : ReceiveWindow} (takes : flow.Takes first last window)
    (more : last + 1 < flow.edge first) {segment : Segment}
    (cut : segment.CutFrom flow.payload (last + 1)) :
    flow.TakesNext first last (window.receive segment) := by
  have inside := flow.edge_le_count first
  have holds := takes.holds.grown cut
  have behind := takes.first_le
  have reach : first ≠ 0 → flow.edge first = min (first + flow.size.toNat) flow.payload.count :=
    fun started => flow.edge_of_pos (Nat.pos_of_ne_zero started)
  have started : first ≠ 0 := by
    -- The first window is the first segment alone, which has been taken.
    rintro rfl
    rw [edge_zero] at more
    omega
  rw [takes.holds.receive_next cut]
  by_cases final : flow.payload.count ≤ last + 2
  · rw [if_pos final]
    have all : last + 2 = flow.payload.count := by omega
    refine .complete all ?_ holds.last_eq takes.size_eq
    rw [holds.data, all, Payload.joined_count flow.sized]
  · rw [if_neg final]
    have edge := reach started
    by_cases full : last + 2 = first + flow.size.toNat
    · rw [if_pos ((takes.full_iff more).mpr full)]
      have ends : last + 2 = flow.edge first := by omega
      refine .windowFull ends (Nat.not_le.mp final) ?_
      refine ⟨holds.acked _, by omega, by omega, takes.size_eq, ?_⟩
      rw [if_pos ends]
    · rw [if_neg (fun same => full ((takes.full_iff more).mp same))]
      have goesOn : last + 2 < flow.edge first := by omega
      refine .accepted goesOn ⟨holds, by omega, by omega, takes.size_eq, ?_⟩
      rw [if_neg (Nat.ne_of_lt goesOn)]
      show window.lastAcked = _
      rw [takes.lastAcked_eq, if_neg (Nat.ne_of_lt more)]

/-- When its acknowledgment has arrived, a window that has ended is followed by the next one. -/
theorem Takes.advance {window : ReceiveWindow} (takes : flow.Takes first last window)
    (ends : last + 1 = flow.edge first) (more : last + 1 < flow.payload.count) :
    flow.Takes (flow.edge first) last window := by
  rw [ends] at more
  have ahead := lt_edge more
  refine ⟨takes.holds, Nat.le_of_eq ends.symm, by omega, takes.size_eq, ?_⟩
  rw [takes.lastAcked_eq, if_pos ends, if_neg (by omega), ← ends, Nat.add_sub_cancel]

/-! ## Acknowledgments -/

/-- What the sender makes of the acknowledgment of its window. -/
inductive Acknowledged (flow : Flow) (first : Nat) : AckOutcome × SendWindow → Prop where
  /-- The message is complete. -/
  | complete {next : SendWindow} (final : flow.edge first = flow.payload.count) :
    Acknowledged flow first (.complete, next)
  /-- The next window can be sent. -/
  | advanced {next : SendWindow} (sends : flow.Sends (flow.edge first) next)
    (flight : flow.InFlight (flow.edge first) (flow.edge (flow.edge first)) next.current) :
    Acknowledged flow first (.advanced, next)

theorem Sends.acknowledged {send : SendWindow} (sends : flow.Sends first send) :
    flow.Acknowledged first (send.acknowledge (UInt8.ofNat (flow.edge first - 1)) flow.size) := by
  obtain ⟨payload_eq, rfl, inside⟩ := sends
  have small := flow.size_le
  have some := flow.size_pos
  have ahead := lt_edge inside
  have within := flow.edge_le_count send.firstUnacked
  have near : flow.edge send.firstUnacked - 1 - send.firstUnacked < flow.size.toNat := by
    unfold edge
    split <;> omega
  rw [SendWindow.acknowledge_ahead flow.size (by omega) (by omega), clampWindow_size,
    if_neg (Nat.not_le.mpr near), payload_eq, Nat.sub_add_cancel (by omega)]
  by_cases final : flow.payload.count ≤ flow.edge send.firstUnacked
  · rw [if_pos final]
    exact .complete (Nat.le_antisymm within final)
  · rw [if_neg final]
    refine .advanced ⟨rfl, rfl, Nat.not_le.mp final⟩ ?_
    generalize flow.edge send.firstUnacked = next at *
    have started : 0 < next := by omega
    have span : flow.edge next - next = min flow.size.toNat (flow.payload.count - next) := by
      rw [flow.edge_of_pos started]
      omega
    rw [InFlight, span]
    exact SendWindow.cutFrom_segments ⟨flow.payload, next, send.proposed, flow.size, 0⟩
      flow.size.toNat next

end Flow

end BACnet
