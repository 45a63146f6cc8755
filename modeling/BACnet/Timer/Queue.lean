import BACnet.Timer.Clock

/-!
# Timers

A queue of events that are due at some time. Events are handed out in the order of their deadlines,
and among equal deadlines in the order in which they were scheduled. Each scheduled event has a
handle, with which it can be cancelled; handles are never used twice. The numbers of handles do not
end here; those of `BACnet.Timer.Word` have 64 bits.
-/

namespace BACnet

/-- The name of a scheduled event: when it is due, and how many were scheduled before it. -/
structure TimerHandle where
  deadline : Nat
  number : Nat
  deriving DecidableEq, Repr

/-- Events that are due at some time, in the order in which they are handed out. -/
structure TimerQueue (ε : Type) where
  entries : List (TimerHandle × ε)
  /-- How many events have been scheduled so far. -/
  scheduled : Nat
  deriving DecidableEq, Repr

namespace TimerQueue

variable {ε : Type}

/-- The queue without events. -/
def empty : TimerQueue ε := ⟨[], 0⟩

/-- Puts an event behind all that are due no later. -/
def place (handle : TimerHandle) (event : ε) : List (TimerHandle × ε) → List (TimerHandle × ε)
  | [] => [(handle, event)]
  | entry :: rest =>
    if handle.deadline < entry.1.deadline then (handle, event) :: entry :: rest
    else entry :: place handle event rest

/-- Schedules an event and gives it a handle. -/
def schedule (queue : TimerQueue ε) (deadline : Nat) (event : ε) :
    TimerHandle × TimerQueue ε :=
  let handle : TimerHandle := ⟨deadline, queue.scheduled⟩
  (handle, ⟨place handle event queue.entries, queue.scheduled + 1⟩)

/-- The event with this handle, if it is still in the queue. -/
def event? (queue : TimerQueue ε) (handle : TimerHandle) : Option ε :=
  (queue.entries.find? (·.1 = handle)).map (·.2)

/-- Whether the event with this handle is still in the queue. -/
def isScheduled (queue : TimerQueue ε) (handle : TimerHandle) : Bool :=
  (queue.event? handle).isSome

/-- Takes the event with this handle out of the queue, if it is still there. -/
def cancel (queue : TimerQueue ε) (handle : TimerHandle) : TimerQueue ε :=
  { queue with entries := queue.entries.filter (·.1 ≠ handle) }

/-- Takes the event out of the queue that a handle, if there is one, belongs to. -/
def cancel? (queue : TimerQueue ε) : Option TimerHandle → TimerQueue ε
  | none => queue
  | some handle => queue.cancel handle

/-- Takes out the first event if it is due. -/
def pop? (queue : TimerQueue ε) (now : Nat) : Option (TimerHandle × ε × TimerQueue ε) :=
  match queue.entries with
  | [] => none
  | (handle, event) :: rest =>
    if now < handle.deadline then none else some (handle, event, { queue with entries := rest })

/-- When the first event is due. -/
def nextDeadline? (queue : TimerQueue ε) : Option Nat :=
  queue.entries.head?.map (·.1.deadline)

/-- The number of events in the queue. -/
def size (queue : TimerQueue ε) : Nat := queue.entries.length

/-- Whether the queue has no events. -/
def isEmpty (queue : TimerQueue ε) : Bool := queue.entries.isEmpty

/-! ## Laws -/

/-- Whether the events of a list come in the order of their deadlines, and those with equal
deadlines in the order of their numbers. -/
def Ordered (entries : List (TimerHandle × ε)) : Prop :=
  entries.Pairwise fun a b => a.1.deadline < b.1.deadline ∨
    a.1.deadline = b.1.deadline ∧ a.1.number < b.1.number

theorem mem_place {handle : TimerHandle} {event : ε} {entries : List (TimerHandle × ε)}
    {entry : TimerHandle × ε} :
    entry ∈ place handle event entries ↔ entry = (handle, event) ∨ entry ∈ entries := by
  induction entries with
  | nil => simp [place]
  | cons first rest ih =>
    unfold place
    split
    · simp
    · simp only [List.mem_cons, ih]
      grind

theorem ordered_place {handle : TimerHandle} {event : ε} {entries : List (TimerHandle × ε)}
    (ordered : Ordered entries) (fresh : ∀ entry ∈ entries, entry.1.number < handle.number) :
    Ordered (place handle event entries) := by
  induction entries with
  | nil => simp [place, Ordered]
  | cons first rest ih =>
    obtain ⟨before, restOrdered⟩ := List.pairwise_cons.mp ordered
    unfold place
    split
    · next earlier =>
      refine List.pairwise_cons.mpr ⟨fun entry mem => Or.inl ?_, ordered⟩
      rcases List.mem_cons.mp mem with rfl | mem
      · exact earlier
      · have := before entry mem
        show handle.deadline < entry.1.deadline
        omega
    · next later =>
      refine List.pairwise_cons.mpr ⟨fun entry mem => ?_, ih restOrdered fun entry mem =>
        fresh entry (List.mem_cons_of_mem first mem)⟩
      rcases mem_place.mp mem with rfl | mem
      · have := fresh first List.mem_cons_self
        show first.1.deadline < handle.deadline ∨ _
        by_cases h : first.1.deadline < handle.deadline
        · exact Or.inl h
        · exact Or.inr ⟨by show first.1.deadline = handle.deadline; omega, this⟩
      · exact before entry mem

end TimerQueue

end BACnet
