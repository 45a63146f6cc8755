import BACnet.Proofs.Timer.Queue
import Mathlib.Data.List.Nodup

/-!
# Calls on a queue of timers

The journal of a queue is what its users see of it: the calls that they make, in any order, and what
these return. It tells which events have been scheduled (`TimerQueue.given`) and which of them have
been handed out (`TimerQueue.handedOut`), and so which ones still wait (`TimerQueue.Waits`).

* `TimerQueue.Accounts.step`: each call keeps the account, in which the scheduled events are those
  that have been handed out and those in the queue.
* `TimerQueue.handed_out_in_order`: the journal so far determines what the next call returns.
-/

namespace BACnet

/-- A call on a queue of timers. -/
inductive TimerCall (ε : Type) where
  | schedule (deadline : Nat) (event : ε)
  | cancel (handle : TimerHandle)
  /-- Asks for the first event, if it is due by now. -/
  | pop (now : Nat)

/-- What a call on a queue of timers returns. -/
inductive TimerAnswer (ε : Type) where
  | scheduled (handle : TimerHandle)
  /-- The event that the cancelled handle stands for, if it is still there. -/
  | cancelled (event : Option ε)
  | popped (entry : Option (TimerHandle × ε))

/-- Two timers are not handed out before each other. -/
theorem TimerHandle.not_before_of_before {first second : TimerHandle}
    (earlier : first.before second) : ¬ second.before first := by
  simp only [TimerHandle.before, decide_eq_true_eq] at earlier ⊢
  omega

namespace TimerQueue

variable {ε : Type} {queue : TimerQueue ε}

/-- What a call returns. -/
def answer (queue : TimerQueue ε) : TimerCall ε → TimerAnswer ε
  | .schedule deadline event => .scheduled (queue.schedule deadline event).1
  | .cancel handle => .cancelled (queue.event? handle)
  | .pop now => .popped ((queue.pop? now).map fun (handle, event, _) => (handle, event))

/-- The queue after a call. -/
def serve (queue : TimerQueue ε) : TimerCall ε → TimerQueue ε
  | .schedule deadline event => (queue.schedule deadline event).2
  | .cancel handle => queue.cancel handle
  | .pop now =>
    match queue.pop? now with
    | none => queue
    | some (_, _, rest) => rest

/-- The queue after calls one after the other. -/
def run (queue : TimerQueue ε) : List (TimerCall ε) → TimerQueue ε
  | [] => queue
  | call :: rest => (queue.serve call).run rest

/-- Calls one after the other, and what they return. -/
def journal (queue : TimerQueue ε) : List (TimerCall ε) → List (TimerCall ε × TimerAnswer ε)
  | [] => []
  | call :: rest => (call, queue.answer call) :: (queue.serve call).journal rest

/-! ## What a journal tells -/

/-- The event that a call schedules, with its new handle. -/
def given? : TimerCall ε × TimerAnswer ε → Option (TimerHandle × ε)
  | (.schedule _ event, .scheduled handle) => some (handle, event)
  | _ => none

/-- The event that a call hands out, with its handle: the cancelled one, or the one that is due. -/
def handedOut? : TimerCall ε × TimerAnswer ε → Option (TimerHandle × ε)
  | (.cancel handle, .cancelled event) => event.map (handle, ·)
  | (.pop _, .popped entry) => entry
  | _ => none

/-- The events that have been scheduled, the oldest one first. -/
def given (journal : List (TimerCall ε × TimerAnswer ε)) : List (TimerHandle × ε) :=
  journal.filterMap given?

/-- The events that have been handed out. -/
def handedOut (journal : List (TimerCall ε × TimerAnswer ε)) : List (TimerHandle × ε) :=
  journal.filterMap handedOut?

/-- The event has been scheduled, and nothing has been handed out for its handle. -/
def Waits (journal : List (TimerCall ε × TimerAnswer ε)) (entry : TimerHandle × ε) : Prop :=
  entry ∈ given journal ∧ entry.1 ∉ (handedOut journal).map (·.1)

/-! ## What the calls do to the events of the queue -/

theorem place_perm (handle : TimerHandle) (event : ε) (entries : List (TimerHandle × ε)) :
    (place handle event entries).Perm ((handle, event) :: entries) := by
  induction entries with
  | nil => exact .refl _
  | cons first rest ih =>
    unfold place
    split
    · exact .refl _
    · exact (ih.cons first).trans (.swap _ _ _)

theorem event?_eq_none_iff {handle : TimerHandle} :
    queue.event? handle = none ↔ ∀ event, (handle, event) ∉ queue.entries := by
  simp only [event?, Option.map_eq_none_iff, List.find?_eq_none, decide_eq_true_eq]
  constructor
  · intro others event member
    exact others _ member rfl
  · rintro absent ⟨handle, event⟩ member rfl
    exact absent event member

theorem mem_of_event? {handle : TimerHandle} {event : ε}
    (found : queue.event? handle = some event) : (handle, event) ∈ queue.entries := by
  obtain ⟨⟨other, _⟩, first, rfl⟩ := Option.map_eq_some_iff.mp found
  have named : other = handle := by simpa using List.find?_some first
  exact named ▸ List.mem_of_find?_eq_some first

theorem WellFormed.event?_eq_some_iff (wellFormed : queue.WellFormed) {handle : TimerHandle}
    {event : ε} : queue.event? handle = some event ↔ (handle, event) ∈ queue.entries :=
  ⟨mem_of_event?, wellFormed.event?_of_mem⟩

theorem filter_of_absent {handle : TimerHandle} {entries : List (TimerHandle × ε)}
    (absent : ∀ entry ∈ entries, entry.1 ≠ handle) :
    entries.filter (·.1 ≠ handle) = entries :=
  List.filter_eq_self.mpr fun entry member => decide_eq_true (absent entry member)

/-- Cancelling a handle without an event changes nothing. -/
theorem cancel_of_event?_eq_none {handle : TimerHandle} (absent : queue.event? handle = none) :
    queue.cancel handle = queue := by
  rw [cancel, filter_of_absent]
  rintro ⟨other, event⟩ member rfl
  exact event?_eq_none_iff.mp absent event member

theorem WellFormed.perm_cancel (wellFormed : queue.WellFormed) {handle : TimerHandle} {event : ε}
    (member : (handle, event) ∈ queue.entries) :
    queue.entries.Perm ((handle, event) :: (queue.cancel handle).entries) := by
  obtain ⟨before, behind, entries⟩ := List.append_of_mem member
  have distinct := wellFormed.distinct
  rw [entries, List.pairwise_middle fun {_ _} => Ne.symm] at distinct
  have apart := (List.pairwise_cons.mp distinct).1
  have cancelled : (queue.cancel handle).entries = before ++ behind := by
    rw [TimerQueue.cancel, entries, ← filter_of_absent fun entry member => (apart entry member).symm]
    simp
  rw [cancelled, entries]
  exact List.perm_middle

theorem WellFormed.pop?_eq_none_iff (wellFormed : queue.WellFormed) {now : Nat} :
    queue.pop? now = none ↔ ∀ entry ∈ queue.entries, now < entry.1.deadline := by
  constructor
  · intro idle entry member
    exact wellFormed.lt_of_pop?_eq_none idle member
  · intro early
    rw [Option.eq_none_iff_forall_ne_some]
    rintro ⟨handle, event, rest⟩ popped
    have member : (handle, event) ∈ queue.entries :=
      (entries_of_pop? popped).1 ▸ List.mem_cons_self
    exact Nat.not_lt.mpr (due_of_pop? popped) (early _ member)

/-- The event that is handed out comes before all others. -/
theorem WellFormed.before_of_pop? (wellFormed : queue.WellFormed) {rest : TimerQueue ε} {now : Nat}
    {handle : TimerHandle} {event : ε} (popped : queue.pop? now = some (handle, event, rest)) :
    ∀ entry ∈ rest.entries, handle.before entry.1 := by
  have ordered := wellFormed.ordered
  rw [(entries_of_pop? popped).1] at ordered
  intro entry member
  exact decide_eq_true ((List.pairwise_cons.mp ordered).1 entry member)

/-! ## The account -/

/-- The scheduled events are those that have been handed out and those in the queue, and they are
numbered in the order in which they were scheduled. -/
structure Accounts (journal : List (TimerCall ε × TimerAnswer ε)) (queue : TimerQueue ε) :
    Prop where
  wellFormed : queue.WellFormed
  scheduled : queue.scheduled = (given journal).length
  numbers : (given journal).map (·.1.number) = List.range (given journal).length
  kept : (given journal).Perm (handedOut journal ++ queue.entries)

variable {journal : List (TimerCall ε × TimerAnswer ε)}

theorem accounts_empty : Accounts [] (empty : TimerQueue ε) :=
  ⟨wellFormed_empty, rfl, rfl, .nil⟩

theorem given_append_singleton (journal : List (TimerCall ε × TimerAnswer ε))
    (record : TimerCall ε × TimerAnswer ε) :
    given (journal ++ [record]) = given journal ++ (given? record).toList := by
  cases found : given? record <;> simp [given, found]

theorem handedOut_append_singleton (journal : List (TimerCall ε × TimerAnswer ε))
    (record : TimerCall ε × TimerAnswer ε) :
    handedOut (journal ++ [record]) = handedOut journal ++ (handedOut? record).toList := by
  cases found : handedOut? record <;> simp [handedOut, found]

/-- A call keeps the account if what it schedules and what was in the queue is what it hands out and
what is in the queue then. -/
theorem Accounts.append (accounts : Accounts journal queue) {next : TimerQueue ε}
    {record : TimerCall ε × TimerAnswer ε} (wellFormed : next.WellFormed)
    (scheduled : next.scheduled = queue.scheduled + (given? record).toList.length)
    (numbered : ∀ entry, given? record = some entry → entry.1.number = queue.scheduled)
    (kept : ((given? record).toList ++ queue.entries).Perm
      ((handedOut? record).toList ++ next.entries)) :
    Accounts (journal ++ [record]) next := by
  refine ⟨wellFormed, ?_, ?_, ?_⟩
  · rw [scheduled, given_append_singleton, List.length_append, accounts.scheduled]
  · rw [given_append_singleton, List.map_append, accounts.numbers]
    cases given : given? record with
    | none => simp
    | some entry => simp [numbered entry given, accounts.scheduled, List.range_succ]
  · rw [given_append_singleton, handedOut_append_singleton, List.append_assoc]
    have grown : (given journal ++ (given? record).toList).Perm
        (handedOut journal ++ (queue.entries ++ (given? record).toList)) := by
      rw [← List.append_assoc]
      exact accounts.kept.append_right _
    exact grown.trans ((List.perm_append_comm.trans kept).append_left _)

/-- Every call keeps the account. -/
theorem Accounts.step (accounts : Accounts journal queue) (call : TimerCall ε) :
    Accounts (journal ++ [(call, queue.answer call)]) (queue.serve call) := by
  have wellFormed := accounts.wellFormed
  cases call with
  | schedule deadline event =>
    refine accounts.append (wellFormed.schedule deadline event) rfl ?_ (place_perm _ _ _).symm
    rintro _ ⟨⟩
    rfl
  | cancel handle =>
    cases found : queue.event? handle with
    | none =>
      rw [answer, serve, found, cancel_of_event?_eq_none found]
      exact accounts.append wellFormed rfl nofun (.refl _)
    | some event =>
      rw [answer, serve, found]
      exact accounts.append (wellFormed.cancel handle) rfl nofun
        (wellFormed.perm_cancel (wellFormed.event?_eq_some_iff.mp found))
  | pop now =>
    rw [answer, serve]
    cases popped : queue.pop? now with
    | none => exact accounts.append wellFormed rfl nofun (.refl _)
    | some first =>
      obtain ⟨handle, event, rest⟩ := first
      obtain ⟨entries, scheduled⟩ := entries_of_pop? popped
      exact accounts.append (wellFormed.pop? popped) scheduled nofun (.of_eq entries)

/-- Calls one after the other keep the account. -/
theorem Accounts.run (accounts : Accounts journal queue) (calls : List (TimerCall ε)) :
    Accounts (journal ++ queue.journal calls) (queue.run calls) := by
  induction calls generalizing journal queue with
  | nil => rwa [TimerQueue.journal, List.append_nil]
  | cons call rest ih =>
    rw [TimerQueue.journal, ← List.singleton_append, ← List.append_assoc]
    exact ih (accounts.step call)

/-! ## What the account tells -/

theorem Accounts.given_distinct (accounts : Accounts journal queue) :
    ((given journal).map (·.1)).Nodup := by
  have numbers : (((given journal).map (·.1)).map (·.number)).Nodup := by
    rw [List.map_map]
    exact accounts.numbers ▸ List.nodup_range
  exact List.Nodup.of_map _ numbers

theorem Accounts.distinct (accounts : Accounts journal queue) :
    ((handedOut journal).map (·.1) ++ queue.entries.map (·.1)).Nodup := by
  rw [← List.map_append]
  exact (accounts.kept.map (·.1)).nodup_iff.mp accounts.given_distinct

/-- What waits according to the journal is what the queue holds. -/
theorem Accounts.waits_iff (accounts : Accounts journal queue) {entry : TimerHandle × ε} :
    Waits journal entry ↔ entry ∈ queue.entries := by
  have apart := (List.nodup_append.mp accounts.distinct).2.2
  rw [Waits, accounts.kept.mem_iff, List.mem_append]
  constructor
  · rintro ⟨gone | here, fresh⟩
    · exact absurd (List.mem_map_of_mem gone) fresh
    · exact here
  · intro here
    exact ⟨.inr here, fun gone => apart _ gone _ (List.mem_map_of_mem here) rfl⟩

/-- The event that is due and comes before all others is handed out. -/
theorem WellFormed.exists_pop?_iff (wellFormed : queue.WellFormed) {now : Nat}
    {entry : TimerHandle × ε} :
    (∃ rest, queue.pop? now = some (entry.1, entry.2, rest)) ↔
      entry ∈ queue.entries ∧ entry.1.deadline ≤ now ∧
        ∀ other ∈ queue.entries, other = entry ∨ entry.1.before other.1 := by
  constructor
  · rintro ⟨rest, popped⟩
    rw [(entries_of_pop? popped).1]
    exact ⟨List.mem_cons_self, due_of_pop? popped, fun other member =>
      (List.mem_cons.mp member).imp id (wellFormed.before_of_pop? popped other)⟩
  · rintro ⟨member, due, first⟩
    cases popped : queue.pop? now with
    | none =>
      have early := wellFormed.pop?_eq_none_iff.mp popped entry member
      exact absurd due (Nat.not_le.mpr early)
    | some found =>
      obtain ⟨handle, event, rest⟩ := found
      have before := wellFormed.before_of_pop? popped
      rw [(entries_of_pop? popped).1] at member first
      rcases List.mem_cons.mp member with rfl | behind
      · exact ⟨rest, rfl⟩
      · rcases first _ List.mem_cons_self with same | after
        · exact ⟨rest, by rw [← same]⟩
        · exact absurd after (TimerHandle.not_before_of_before (before entry behind))

/-- Whatever calls have been made on a queue, in whatever order: the scheduled events are numbered
one after the other, so that fewer than 2^64 of them have different numbers of 64 bits. Each is
handed out at most once, and nothing else is. An event that waits is handed out if its handle is
cancelled, and no other handle does anything. Of the events that wait, the one is handed out that
comes first, if it is due. -/
theorem handed_out_in_order (calls : List (TimerCall ε)) :
    let journal := (empty : TimerQueue ε).journal calls
    let queue := (empty : TimerQueue ε).run calls
    (given journal).map (·.1.number) = List.range (given journal).length ∧
      ((handedOut journal).map (·.1)).Nodup ∧
      (∀ entry ∈ handedOut journal, entry ∈ given journal) ∧
      (∀ deadline event, queue.answer (.schedule deadline event) =
        .scheduled ⟨deadline, (given journal).length⟩) ∧
      (∀ handle event, queue.answer (.cancel handle) = .cancelled (some event) ↔
        Waits journal (handle, event)) ∧
      (∀ handle, (∀ event, ¬ Waits journal (handle, event)) →
        queue.answer (.cancel handle) = .cancelled none ∧ queue.serve (.cancel handle) = queue) ∧
      (∀ now, queue.answer (.pop now) = .popped none ↔
        ∀ entry, Waits journal entry → now < entry.1.deadline) ∧
      ∀ now entry, queue.answer (.pop now) = .popped (some entry) ↔
        Waits journal entry ∧ entry.1.deadline ≤ now ∧
          ∀ other, Waits journal other → other = entry ∨ entry.1.before other.1 := by
  intro journal queue
  have accounts : Accounts journal queue := accounts_empty.run calls
  have wellFormed := accounts.wellFormed
  simp only [accounts.waits_iff]
  refine ⟨accounts.numbers, (List.nodup_append.mp accounts.distinct).1, ?_, ?_, ?_, ?_, ?_, ?_⟩
  · intro entry member
    exact accounts.kept.mem_iff.mpr (List.mem_append_left _ member)
  · intro deadline event
    rw [← accounts.scheduled]
    rfl
  · intro handle event
    rw [← wellFormed.event?_eq_some_iff, answer, TimerAnswer.cancelled.injEq]
  · intro handle idle
    have absent := event?_eq_none_iff.mpr idle
    exact ⟨congrArg _ absent, cancel_of_event?_eq_none absent⟩
  · intro now
    rw [← wellFormed.pop?_eq_none_iff, answer, TimerAnswer.popped.injEq, Option.map_eq_none_iff]
  · intro now entry
    rw [← wellFormed.exists_pop?_iff, answer, TimerAnswer.popped.injEq, Option.map_eq_some_iff]
    constructor
    · rintro ⟨⟨handle, event, rest⟩, popped, rfl⟩
      exact ⟨rest, popped⟩
    · rintro ⟨rest, popped⟩
      exact ⟨_, popped, rfl⟩

/-- Of two events with one deadline the older one is handed out first. The other one is cancelled
before its turn. -/
example : handedOut ((empty : TimerQueue Nat).journal [.schedule 30 3, .schedule 10 1,
    .schedule 10 2, .pop 9, .pop 20, .cancel ⟨10, 2⟩, .cancel ⟨10, 2⟩, .pop 20]) =
      [(⟨10, 1⟩, 1), (⟨10, 2⟩, 2)] := by
  decide

end TimerQueue

end BACnet
