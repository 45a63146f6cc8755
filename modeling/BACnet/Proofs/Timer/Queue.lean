import BACnet.Timer.Queue

/-!
# Queues of timers

A queue is well formed when its events stand in the order in which they are handed out and their
handles are older than the next one. `TimerQueue.handlesOf` is the view of a queue that its users
have: the handles of one event. It is enough to know what scheduling, cancelling and handing out do
to the view of every event.
-/

namespace BACnet

/-- Whether a timer is handed out before another one. -/
def TimerHandle.before (first second : TimerHandle) : Bool :=
  first.deadline < second.deadline ∨
    first.deadline = second.deadline ∧ first.number < second.number

namespace TimerQueue

variable {ε : Type}

/-- The events are in order, and all handles have been given out. -/
structure WellFormed (queue : TimerQueue ε) : Prop where
  ordered : Ordered queue.entries
  numbered : ∀ entry ∈ queue.entries, entry.1.number < queue.scheduled

theorem wellFormed_empty : (empty : TimerQueue ε).WellFormed := ⟨.nil, nofun⟩

theorem WellFormed.schedule {queue : TimerQueue ε} (wellFormed : queue.WellFormed)
    (deadline : Nat) (event : ε) : (queue.schedule deadline event).2.WellFormed := by
  refine ⟨ordered_place wellFormed.ordered wellFormed.numbered, ?_⟩
  intro entry member
  show entry.1.number < queue.scheduled + 1
  rcases mem_place.mp member with rfl | old
  · exact Nat.lt_succ_self _
  · exact Nat.lt_succ_of_lt (wellFormed.numbered entry old)

theorem WellFormed.cancel {queue : TimerQueue ε} (wellFormed : queue.WellFormed)
    (handle : TimerHandle) : (queue.cancel handle).WellFormed := by
  refine ⟨List.Pairwise.filter _ wellFormed.ordered, ?_⟩
  intro entry member
  exact wellFormed.numbered entry (List.mem_filter.mp member).1

theorem WellFormed.cancel? {queue : TimerQueue ε} (wellFormed : queue.WellFormed)
    (handle : Option TimerHandle) : (queue.cancel? handle).WellFormed := by
  cases handle with
  | none => exact wellFormed
  | some handle => exact wellFormed.cancel handle

theorem entries_of_pop? {queue rest : TimerQueue ε} {now : Nat} {handle : TimerHandle} {event : ε}
    (popped : queue.pop? now = some (handle, event, rest)) :
    queue.entries = (handle, event) :: rest.entries ∧ rest.scheduled = queue.scheduled := by
  unfold pop? at popped
  split at popped
  · cases popped
  · next first behind entries =>
    split at popped
    · cases popped
    · cases popped
      exact ⟨entries, rfl⟩

theorem WellFormed.pop? {queue rest : TimerQueue ε} (wellFormed : queue.WellFormed) {now : Nat}
    {handle : TimerHandle} {event : ε} (popped : queue.pop? now = some (handle, event, rest)) :
    rest.WellFormed := by
  obtain ⟨entries, scheduled⟩ := entries_of_pop? popped
  have ordered := wellFormed.ordered
  rw [entries] at ordered
  refine ⟨ordered.tail, ?_⟩
  intro entry member
  rw [scheduled]
  exact wellFormed.numbered entry (entries ▸ List.mem_cons_of_mem _ member)

theorem due_of_pop? {queue rest : TimerQueue ε} {now : Nat} {handle : TimerHandle} {event : ε}
    (popped : queue.pop? now = some (handle, event, rest)) : handle.deadline ≤ now := by
  unfold pop? at popped
  split at popped
  · cases popped
  · split at popped
    · cases popped
    · next due =>
      cases popped
      exact Nat.le_of_not_lt due

/-- If no timer is handed out, then none is due. -/
theorem WellFormed.lt_of_pop?_eq_none {queue : TimerQueue ε} (wellFormed : queue.WellFormed)
    {now : Nat} (none : queue.pop? now = none) {handle : TimerHandle} {event : ε}
    (member : (handle, event) ∈ queue.entries) : now < handle.deadline := by
  have ordered := wellFormed.ordered
  unfold TimerQueue.pop? at none
  split at none
  · next empty =>
    rw [empty] at member
    cases member
  · next first _ rest entries =>
    split at none
    · next early =>
      rw [entries] at member ordered
      rcases List.mem_cons.mp member with same | behind
      · cases same
        exact early
      · have later : first.deadline < handle.deadline ∨
            first.deadline = handle.deadline ∧ first.number < handle.number :=
          (List.pairwise_cons.mp ordered).1 _ behind
        omega
    · cases none

/-- Handles are not used twice. -/
theorem WellFormed.distinct {queue : TimerQueue ε} (wellFormed : queue.WellFormed) :
    queue.entries.Pairwise fun a b => a.1 ≠ b.1 := by
  apply wellFormed.ordered.imp
  intro a b earlier same
  rw [same] at earlier
  omega

theorem WellFormed.event_unique {queue : TimerQueue ε} (wellFormed : queue.WellFormed)
    {handle : TimerHandle} {event other : ε} (one : (handle, event) ∈ queue.entries)
    (two : (handle, other) ∈ queue.entries) : event = other := by
  have distinct := wellFormed.distinct
  generalize queue.entries = entries at one two distinct
  -- The first entry has a handle of its own, so it is both of them or neither.
  induction entries with
  | nil => cases one
  | cons first rest ih =>
    obtain ⟨apart, distinct⟩ := List.pairwise_cons.mp distinct
    rcases List.mem_cons.mp one with first | behind
    · subst first
      rcases List.mem_cons.mp two with same | behind
      · exact (congrArg Prod.snd same).symm
      · exact absurd rfl (apart (handle, other) behind)
    · rcases List.mem_cons.mp two with same | after
      · subst same
        exact absurd rfl (apart (handle, event) behind)
      · exact ih behind after distinct

theorem WellFormed.event?_of_mem {queue : TimerQueue ε} (wellFormed : queue.WellFormed)
    {handle : TimerHandle} {event : ε} (member : (handle, event) ∈ queue.entries) :
    queue.event? handle = some event := by
  unfold event?
  cases found : queue.entries.find? (·.1 = handle) with
  | none =>
    have absent := List.find?_eq_none.mp found (handle, event) member
    exact absurd (decide_eq_true rfl) absent
  | some entry =>
    have named : entry.1 = handle := by simpa using List.find?_some found
    have entered : (handle, entry.2) ∈ queue.entries := named ▸ List.mem_of_find?_eq_some found
    rw [Option.map_some, wellFormed.event_unique entered member]

/-- An event that is handed out leaves the queue like one that is cancelled. -/
theorem WellFormed.cancel_of_pop? {queue rest : TimerQueue ε} (wellFormed : queue.WellFormed)
    {now : Nat} {handle : TimerHandle} {event : ε}
    (popped : queue.pop? now = some (handle, event, rest)) : queue.cancel handle = rest := by
  obtain ⟨entries, scheduled⟩ := entries_of_pop? popped
  have distinct := wellFormed.distinct
  rw [entries] at distinct
  have apart := (List.pairwise_cons.mp distinct).1
  have behind : rest.entries.filter (·.1 ≠ handle) = rest.entries := by
    rw [List.filter_eq_self]
    intro entry member
    exact decide_eq_true (apart entry member).symm
  rw [TimerQueue.cancel, entries, ← scheduled, List.filter_cons, if_neg (by simp), behind]

theorem cancel_cancel (queue : TimerQueue ε) (handle : TimerHandle) :
    (queue.cancel handle).cancel handle = queue.cancel handle := by
  simp [cancel, List.filter_filter]

/-! ## The handles of an event -/

variable [DecidableEq ε]

/-- The handles of an event, the one first that is due first. -/
def handlesOf (queue : TimerQueue ε) (event : ε) : List TimerHandle :=
  (queue.entries.filter (·.2 = event)).map (·.1)

theorem mem_handlesOf {queue : TimerQueue ε} {event : ε} {handle : TimerHandle} :
    handle ∈ queue.handlesOf event ↔ (handle, event) ∈ queue.entries := by
  rw [handlesOf, List.mem_map]
  constructor
  · rintro ⟨⟨same, other⟩, member, rfl⟩
    obtain ⟨member, found⟩ := List.mem_filter.mp member
    rw [← of_decide_eq_true found]
    exact member
  · intro member
    exact ⟨(handle, event), List.mem_filter.mpr ⟨member, decide_eq_true rfl⟩, rfl⟩

theorem filter_place_of_ne {handle : TimerHandle} {event other : ε} (ne : event ≠ other)
    (entries : List (TimerHandle × ε)) :
    (place handle event entries).filter (·.2 = other) = entries.filter (·.2 = other) := by
  induction entries with
  | nil => simp [place, ne]
  | cons first rest ih =>
    unfold place
    split
    · rw [List.filter_cons, if_neg (by simpa using ne)]
    · rw [List.filter_cons, List.filter_cons, ih]

theorem filter_place_of_none {handle : TimerHandle} {event : ε} {entries : List (TimerHandle × ε)}
    (none : entries.filter (·.2 = event) = []) :
    (place handle event entries).filter (·.2 = event) = [(handle, event)] := by
  induction entries with
  | nil => simp [place]
  | cons first rest ih =>
    have differs : ¬ decide (first.2 = event) = true :=
      List.filter_eq_nil_iff.mp none first List.mem_cons_self
    unfold place
    split
    · rw [List.filter_cons, if_pos (decide_eq_true rfl), none]
    · rw [List.filter_cons, if_neg differs] at none
      rw [List.filter_cons, if_neg differs, ih none]

theorem handlesOf_schedule_of_ne (queue : TimerQueue ε) (deadline : Nat) {event other : ε}
    (ne : event ≠ other) :
    (queue.schedule deadline event).2.handlesOf other = queue.handlesOf other := by
  unfold handlesOf schedule
  rw [filter_place_of_ne ne queue.entries]

theorem handlesOf_schedule_of_none {queue : TimerQueue ε} (deadline : Nat) {event : ε}
    (none : queue.handlesOf event = []) :
    (queue.schedule deadline event).2.handlesOf event = [(queue.schedule deadline event).1] := by
  have absent := List.map_eq_nil_iff.mp none
  unfold handlesOf schedule
  rw [filter_place_of_none absent]
  rfl

theorem handlesOf_cancel (queue : TimerQueue ε) (handle : TimerHandle) (event : ε) :
    (queue.cancel handle).handlesOf event = (queue.handlesOf event).filter (· ≠ handle) := by
  simp only [handlesOf, cancel, List.filter_map, List.filter_filter]
  congr 2
  funext entry
  simp [Bool.and_comm]

/-- Cancelling does not change the handles of an event that does not have the cancelled one. -/
theorem handlesOf_cancel_of_not_mem {queue : TimerQueue ε} {handle : TimerHandle} {event : ε}
    (absent : handle ∉ queue.handlesOf event) :
    (queue.cancel handle).handlesOf event = queue.handlesOf event := by
  rw [handlesOf_cancel, List.filter_eq_self]
  intro other member
  rw [decide_eq_true_iff]
  rintro rfl
  exact absent member

theorem handlesOf_of_pop? {queue rest : TimerQueue ε} {now : Nat} {handle : TimerHandle} {event : ε}
    (popped : queue.pop? now = some (handle, event, rest)) (other : ε) :
    queue.handlesOf other =
      if event = other then handle :: rest.handlesOf other else rest.handlesOf other := by
  rw [handlesOf, (entries_of_pop? popped).1, List.filter_cons]
  by_cases same : event = other
  · simp [same, handlesOf]
  · simp [same, handlesOf]

end TimerQueue

end BACnet
