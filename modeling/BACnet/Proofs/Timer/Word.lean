import BACnet.Proofs.Timer.Calls
import BACnet.Timer.Word

/-!
# Calls on a queue with numbers of 64 bits

As long as no more than `2 ^ 64` events are scheduled a queue whose numbers have 64 bits returns the
same as one whose numbers do not end (`WordTimerQueue.journal_eq`): the entries of both are the same
but for the width of their numbers (`WordTimerQueue.Keeps`), and a new number is larger than all
others in both.
-/

namespace BACnet

/-- The handle with a number of 64 bits. -/
def TimerHandle.word (handle : TimerHandle) : WordTimerHandle :=
  ⟨handle.deadline, UInt64.ofNat handle.number⟩

/-- The handle with its number as it is. -/
def WordTimerHandle.wide (handle : WordTimerHandle) : TimerHandle :=
  ⟨handle.deadline, handle.number.toNat⟩

theorem TimerHandle.wide_word {handle : TimerHandle} (small : handle.number < UInt64.size) :
    handle.word.wide = handle := by
  obtain ⟨deadline, number⟩ := handle
  rw [word, WordTimerHandle.wide, UInt64.toNat_ofNat_of_lt' small]

/-- Numbers of 64 bits tell handles apart. -/
theorem TimerHandle.word_inj {first second : TimerHandle}
    (smallFirst : first.number < UInt64.size) (smallSecond : second.number < UInt64.size) :
    first.word = second.word ↔ first = second := by
  refine ⟨?_, congrArg _⟩
  intro same
  rw [← wide_word smallFirst, same, wide_word smallSecond]

/-- A fresh handle stands before an older one just if it is due earlier. -/
theorem TimerHandle.before_word_of_fresh {fresh old : TimerHandle}
    (small : fresh.number < UInt64.size) (older : old.number < fresh.number) :
    fresh.word.before old.word = decide (fresh.deadline < old.deadline) := by
  have later : ¬ fresh.word.number < old.word.number := by
    rw [UInt64.lt_iff_toNat_lt, word, word, UInt64.toNat_ofNat_of_lt' small,
      UInt64.toNat_ofNat_of_lt' (Nat.lt_trans older small)]
    exact Nat.not_lt.mpr (Nat.le_of_lt older)
  simp only [WordTimerHandle.before, later, and_false, or_false]
  rfl

namespace TimerCall

variable {ε : Type}

/-- A handle that is cancelled has a number of 64 bits. -/
def Fits : TimerCall ε → Prop
  | cancel handle => handle.number < UInt64.size
  | _ => True

/-- The number of events that a call schedules. -/
def scheduled : TimerCall ε → Nat
  | schedule _ _ => 1
  | _ => 0

/-- The number of events that calls schedule. -/
def scheduledBy : List (TimerCall ε) → Nat
  | [] => 0
  | call :: rest => call.scheduled + scheduledBy rest

end TimerCall

namespace TimerQueue

variable {ε : Type}

theorem WellFormed.serve {queue : TimerQueue ε} (wellFormed : queue.WellFormed)
    (call : TimerCall ε) : (queue.serve call).WellFormed := by
  cases call with
  | schedule deadline event => exact wellFormed.schedule deadline event
  | cancel handle => exact wellFormed.cancel handle
  | pop now =>
    rw [TimerQueue.serve]
    cases popped : queue.pop? now with
    | none => exact wellFormed
    | some first => exact wellFormed.pop? popped

theorem scheduled_serve (queue : TimerQueue ε) (call : TimerCall ε) :
    (queue.serve call).scheduled = queue.scheduled + call.scheduled := by
  cases call with
  | schedule deadline event => rfl
  | cancel handle => rfl
  | pop now =>
    rw [TimerQueue.serve]
    cases popped : queue.pop? now with
    | none => rfl
    | some first => exact (entries_of_pop? popped).2

end TimerQueue

namespace WordTimerQueue

variable {ε : Type}

/-- What a call returns. -/
def answer (queue : WordTimerQueue ε) : TimerCall ε → TimerAnswer ε
  | .schedule deadline event => .scheduled (queue.schedule deadline event).1.wide
  | .cancel handle => .cancelled (queue.event? handle.word)
  | .pop now => .popped ((queue.pop? now).map fun (handle, event, _) => (handle.wide, event))

/-- The queue after a call. -/
def serve (queue : WordTimerQueue ε) : TimerCall ε → WordTimerQueue ε
  | .schedule deadline event => (queue.schedule deadline event).2
  | .cancel handle => queue.cancel handle.word
  | .pop now =>
    match queue.pop? now with
    | none => queue
    | some (_, _, rest) => rest

/-- Calls one after the other, and what they return. -/
def journal (queue : WordTimerQueue ε) : List (TimerCall ε) → List (TimerCall ε × TimerAnswer ε)
  | [] => []
  | call :: rest => (call, queue.answer call) :: (queue.serve call).journal rest

/-- The entry with a number of 64 bits. -/
def wordEntry (entry : TimerHandle × ε) : WordTimerHandle × ε := (entry.1.word, entry.2)

/-- The events are those of a queue whose numbers do not end. -/
structure Keeps (queue : WordTimerQueue ε) (wide : TimerQueue ε) : Prop where
  entries : queue.entries = wide.entries.map wordEntry
  next : queue.next = UInt64.ofNat wide.scheduled

theorem keeps_empty : (empty : WordTimerQueue ε).Keeps .empty := ⟨rfl, rfl⟩

/-- A new event is entered behind all that are due no later. -/
theorem write_map {handle : TimerHandle} (small : handle.number < UInt64.size) (event : ε)
    {entries : List (TimerHandle × ε)} (older : ∀ entry ∈ entries, entry.1.number < handle.number) :
    write handle.word event (entries.map wordEntry) =
      (TimerQueue.place handle event entries).map wordEntry := by
  induction entries with
  | nil => rfl
  | cons entry rest ih =>
    obtain ⟨old, behind⟩ := List.forall_mem_cons.mp older
    have other : entry.1.word ≠ handle.word := by
      rw [ne_eq, TimerHandle.word_inj (Nat.lt_trans old small) small]
      intro same
      rw [same] at old
      exact Nat.lt_irrefl _ old
    rw [List.map_cons, write, wordEntry, if_neg other, TimerHandle.before_word_of_fresh small old,
      TimerQueue.place]
    by_cases earlier : handle.deadline < entry.1.deadline
    · rw [if_pos (decide_eq_true earlier), if_pos earlier]
      rfl
    · rw [if_neg (by simpa using earlier), if_neg earlier, ih behind]
      rfl

variable {queue : WordTimerQueue ε} {wide : TimerQueue ε}

theorem Keeps.schedule (keeps : queue.Keeps wide) (wellFormed : wide.WellFormed)
    (left : wide.scheduled < UInt64.size) (deadline : Nat) (event : ε) :
    (queue.schedule deadline event).1 = (wide.schedule deadline event).1.word ∧
      (queue.schedule deadline event).2.Keeps (wide.schedule deadline event).2 := by
  have handle : (queue.schedule deadline event).1 = (wide.schedule deadline event).1.word := by
    show WordTimerHandle.mk deadline queue.next = _
    rw [keeps.next]
    rfl
  refine ⟨handle, ?_, ?_⟩
  · show write (queue.schedule deadline event).1 event queue.entries = _
    rw [handle, keeps.entries]
    exact write_map left event wellFormed.numbered
  · show queue.next + 1 = UInt64.ofNat (wide.scheduled + 1)
    rw [keeps.next, UInt64.ofNat_add]
    rfl

/-- The numbers in a queue fit as long as the number of its events does. -/
theorem word_eq_iff (wellFormed : wide.WellFormed) (left : wide.scheduled ≤ UInt64.size)
    {handle : TimerHandle} (small : handle.number < UInt64.size) :
    ∀ entry ∈ wide.entries, (wordEntry entry).1 = handle.word ↔ entry.1 = handle := by
  intro entry member
  exact TimerHandle.word_inj (Nat.lt_of_lt_of_le (wellFormed.numbered entry member) left) small

theorem Keeps.event? (keeps : queue.Keeps wide) (wellFormed : wide.WellFormed)
    (left : wide.scheduled ≤ UInt64.size) {handle : TimerHandle}
    (small : handle.number < UInt64.size) :
    queue.event? handle.word = wide.event? handle := by
  have same := word_eq_iff wellFormed left small
  rw [WordTimerQueue.event?, TimerQueue.event?, keeps.entries]
  generalize wide.entries = entries at same
  induction entries with
  | nil => rfl
  | cons entry rest ih =>
    obtain ⟨first, behind⟩ := List.forall_mem_cons.mp same
    rw [List.map_cons, List.find?_cons, List.find?_cons, decide_eq_decide.mpr first]
    cases decide (entry.1 = handle) with
    | true => rfl
    | false => exact ih behind

theorem Keeps.cancel (keeps : queue.Keeps wide) (wellFormed : wide.WellFormed)
    (left : wide.scheduled ≤ UInt64.size) {handle : TimerHandle}
    (small : handle.number < UInt64.size) :
    (queue.cancel handle.word).Keeps (wide.cancel handle) := by
  refine ⟨?_, keeps.next⟩
  show queue.entries.filter _ = (wide.entries.filter _).map _
  rw [keeps.entries, List.filter_map]
  refine congrArg _ (List.filter_congr fun entry member => ?_)
  exact decide_eq_decide.mpr (not_congr (word_eq_iff wellFormed left small entry member))

theorem Keeps.pop?_eq_none (keeps : queue.Keeps wide) {now : Nat}
    (early : wide.pop? now = none) : queue.pop? now = none := by
  rw [WordTimerQueue.pop?, keeps.entries]
  unfold TimerQueue.pop? at early
  cases entries : wide.entries with
  | nil => rfl
  | cons entry rest =>
    rw [entries] at early
    by_cases later : now < entry.1.deadline
    · exact if_pos later
    · exact absurd early (by simp [later])

theorem Keeps.pop?_eq_some (keeps : queue.Keeps wide) {now : Nat} {handle : TimerHandle}
    {event : ε} {rest : TimerQueue ε} (popped : wide.pop? now = some (handle, event, rest)) :
    ∃ left, queue.pop? now = some (handle.word, event, left) ∧ left.Keeps rest := by
  obtain ⟨entries, scheduled⟩ := TimerQueue.entries_of_pop? popped
  have due := TimerQueue.due_of_pop? popped
  refine ⟨⟨rest.entries.map wordEntry, queue.next⟩, ?_, rfl, scheduled ▸ keeps.next⟩
  rw [WordTimerQueue.pop?, keeps.entries, entries]
  exact if_neg (Nat.not_lt.mpr due)

/-- A call leads to the same answer, and the queues keep the same events behind it. -/
theorem Keeps.call (keeps : queue.Keeps wide) (wellFormed : wide.WellFormed) {call : TimerCall ε}
    (fits : call.Fits) (left : wide.scheduled + call.scheduled ≤ UInt64.size) :
    queue.answer call = wide.answer call ∧ (queue.serve call).Keeps (wide.serve call) := by
  cases call with
  | schedule deadline event =>
    obtain ⟨handle, next⟩ := keeps.schedule wellFormed left deadline event
    refine ⟨?_, next⟩
    have fits := @TimerHandle.wide_word (wide.schedule deadline event).1 left
    rw [answer, handle, fits, TimerQueue.answer]
  | cancel handle =>
    refine ⟨?_, keeps.cancel wellFormed left fits⟩
    rw [answer, keeps.event? wellFormed left fits, TimerQueue.answer]
  | pop now =>
    rw [answer, TimerQueue.answer, serve, TimerQueue.serve]
    cases popped : wide.pop? now with
    | none =>
      rw [keeps.pop?_eq_none popped]
      exact ⟨rfl, keeps⟩
    | some first =>
      obtain ⟨handle, event, rest⟩ := first
      obtain ⟨next, same, keepsRest⟩ := keeps.pop?_eq_some popped
      have member : (handle, event) ∈ wide.entries :=
        (TimerQueue.entries_of_pop? popped).1 ▸ List.mem_cons_self
      have small := Nat.lt_of_lt_of_le (wellFormed.numbered _ member) left
      rw [same]
      refine ⟨?_, keepsRest⟩
      dsimp only [Option.map_some]
      rw [TimerHandle.wide_word small]

theorem Keeps.journal_eq (keeps : queue.Keeps wide) (wellFormed : wide.WellFormed)
    (calls : List (TimerCall ε)) (fit : ∀ call ∈ calls, call.Fits)
    (left : wide.scheduled + TimerCall.scheduledBy calls ≤ UInt64.size) :
    queue.journal calls = wide.journal calls := by
  induction calls generalizing queue wide with
  | nil => rfl
  | cons call rest ih =>
    obtain ⟨fits, behind⟩ := List.forall_mem_cons.mp fit
    rw [TimerCall.scheduledBy, ← Nat.add_assoc] at left
    obtain ⟨same, next⟩ := keeps.call wellFormed fits (Nat.le_of_add_right_le left)
    rw [← wide.scheduled_serve call] at left
    rw [journal, TimerQueue.journal, same, ih next (wellFormed.serve call) behind left]

/-- Calls that schedule no more events than there are numbers lead to the same answers as on a queue
whose numbers do not end. -/
theorem journal_eq (calls : List (TimerCall ε)) (fit : ∀ call ∈ calls, call.Fits)
    (few : TimerCall.scheduledBy calls ≤ UInt64.size) :
    (empty : WordTimerQueue ε).journal calls = (TimerQueue.empty : TimerQueue ε).journal calls :=
  keeps_empty.journal_eq TimerQueue.wellFormed_empty calls fit ((Nat.zero_add _).symm ▸ few)

end WordTimerQueue

end BACnet
