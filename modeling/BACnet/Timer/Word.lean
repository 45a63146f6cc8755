import BACnet.Timer.Queue

/-!
# Timers with numbers of 64 bits

The timers of a device as they are kept in memory: in a map that is ordered by handles, whose
numbers have 64 bits and start over behind the last one. As long as they have not started over this
is the queue of `BACnet.Timer.Queue`.
-/

namespace BACnet

/-- The name of a scheduled event: when it is due, and its number. -/
structure WordTimerHandle where
  deadline : Nat
  number : UInt64
  deriving DecidableEq, Repr

/-- Whether a handle stands before another one. -/
def WordTimerHandle.before (first second : WordTimerHandle) : Bool :=
  first.deadline < second.deadline ∨
    first.deadline = second.deadline ∧ first.number < second.number

/-- Events that are due at some time, in the order of their handles. -/
structure WordTimerQueue (ε : Type) where
  entries : List (WordTimerHandle × ε)
  /-- The number of the next event. -/
  next : UInt64
  deriving DecidableEq, Repr

namespace WordTimerQueue

variable {ε : Type}

/-- The queue without events. -/
def empty : WordTimerQueue ε := ⟨[], 0⟩

/-- Enters an event under a handle. An event that stands under the same handle is replaced. -/
def write (handle : WordTimerHandle) (event : ε) :
    List (WordTimerHandle × ε) → List (WordTimerHandle × ε)
  | [] => [(handle, event)]
  | entry :: rest =>
    if entry.1 = handle then (handle, event) :: rest
    else if handle.before entry.1 then (handle, event) :: entry :: rest
    else entry :: write handle event rest

/-- Schedules an event and gives it a handle. -/
def schedule (queue : WordTimerQueue ε) (deadline : Nat) (event : ε) :
    WordTimerHandle × WordTimerQueue ε :=
  let handle : WordTimerHandle := ⟨deadline, queue.next⟩
  (handle, ⟨write handle event queue.entries, queue.next + 1⟩)

/-- The event with this handle, if it is still in the queue. -/
def event? (queue : WordTimerQueue ε) (handle : WordTimerHandle) : Option ε :=
  (queue.entries.find? (·.1 = handle)).map (·.2)

/-- Takes the event with this handle out of the queue, if it is still there. -/
def cancel (queue : WordTimerQueue ε) (handle : WordTimerHandle) : WordTimerQueue ε :=
  { queue with entries := queue.entries.filter (·.1 ≠ handle) }

/-- Takes out the first event if it is due. -/
def pop? (queue : WordTimerQueue ε) (now : Nat) :
    Option (WordTimerHandle × ε × WordTimerQueue ε) :=
  match queue.entries with
  | [] => none
  | (handle, event) :: rest =>
    if now < handle.deadline then none else some (handle, event, { queue with entries := rest })

end WordTimerQueue

end BACnet
