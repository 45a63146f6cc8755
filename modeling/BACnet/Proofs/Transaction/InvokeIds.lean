import BACnet.Transaction.InvokeId
import Mathlib.Data.List.Range

/-!
# Invoke IDs are given out in turn

Each call for an ID goes on where the last one for the same device has ended. So the IDs that the
calls for one device look at, one call after the other, run through all 256 in a circle
(`InvokeIds.consecutive_lookedAtFor`), whatever is in use in the meantime. Before an ID comes round
again, each other one has been given out or found in use (`InvokeIds.allocated_in_turn`).
-/

namespace BACnet

/-- A call for an ID: the device that it is for, and which IDs are in use. -/
structure InvokeIdCall where
  peer : Address
  inUse : UInt8 → Bool

namespace InvokeIds

variable {ids other : InvokeIds} {peer : Address} {calls : List InvokeIdCall}

/-- The ID that is given out. -/
def answer (ids : InvokeIds) (call : InvokeIdCall) : Option UInt8 :=
  (ids.allocate call.peer call.inUse).1

/-- The IDs after a call. -/
def serve (ids : InvokeIds) (call : InvokeIdCall) : InvokeIds :=
  (ids.allocate call.peer call.inUse).2

/-- The IDs after calls one after the other. -/
def run (ids : InvokeIds) : List InvokeIdCall → InvokeIds
  | [] => ids
  | call :: rest => (ids.serve call).run rest

/-- What is given out at calls one after the other. -/
def answers (ids : InvokeIds) : List InvokeIdCall → List (Option UInt8)
  | [] => []
  | call :: rest => ids.answer call :: (ids.serve call).answers rest

/-- What is given out for one device among others. -/
def answersTo (ids : InvokeIds) (peer : Address) (calls : List InvokeIdCall) :
    List (Option UInt8) :=
  ((calls.zip (ids.answers calls)).filter (·.1.peer = peer)).map (·.2)

/-! ## What a call looks at -/

/-- The IDs that at most `count` tries look at: those in use, and the first one that is free. -/
def tries (inUse : UInt8 → Bool) : (count : Nat) → UInt8 → List UInt8
  | 0, _ => []
  | count + 1, candidate =>
    candidate :: if inUse candidate then tries inUse count (candidate + 1) else []

/-- The IDs that a call looks at. -/
def lookedAt (ids : InvokeIds) (call : InvokeIdCall) : List UInt8 :=
  tries call.inUse idCount (ids.candidate call.peer)

/-- A call looks at the ID and finds it in use. -/
def FindsInUse (ids : InvokeIds) (call : InvokeIdCall) (id : UInt8) : Prop :=
  id ∈ ids.lookedAt call ∧ call.inUse id = true

/-- The IDs that the calls for one device look at. -/
def lookedAtFor (peer : Address) (ids : InvokeIds) : List InvokeIdCall → List UInt8
  | [] => []
  | call :: rest =>
    (if call.peer = peer then ids.lookedAt call else []) ++ (ids.serve call).lookedAtFor peer rest

/-- The numbers follow each other, and after 255 comes 0. -/
def Consecutive (first : UInt8) (numbers : List UInt8) : Prop :=
  numbers = (List.range numbers.length).map fun offset => first + UInt8.ofNat offset

theorem ofNat_succ_add (first : UInt8) (offset : Nat) :
    first + 1 + UInt8.ofNat offset = first + UInt8.ofNat (offset + 1) := by
  rw [UInt8.add_assoc, UInt8.add_comm 1, UInt8.ofNat_add]
  rfl

theorem Consecutive.cons {first : UInt8} {rest : List UInt8}
    (behind : Consecutive (first + 1) rest) : Consecutive first (first :: rest) := by
  unfold Consecutive
  rw [List.length_cons, List.range_succ_eq_map, List.map_cons, List.map_map]
  refine congrArg₂ List.cons (UInt8.add_zero first).symm (behind.trans ?_)
  exact List.map_congr_left fun offset _ => ofNat_succ_add first offset

theorem Consecutive.append {first : UInt8} {numbers more : List UInt8}
    (before : Consecutive first numbers)
    (behind : Consecutive (first + UInt8.ofNat numbers.length) more) :
    Consecutive first (numbers ++ more) := by
  unfold Consecutive
  rw [List.length_append, List.range_add, List.map_append, ← before, List.map_map]
  refine congrArg _ (behind.trans ?_)
  refine List.map_congr_left fun offset _ => ?_
  rw [Function.comp, UInt8.ofNat_add, UInt8.add_assoc]

/-- A full circle has all numbers. -/
theorem Consecutive.mem {first : UInt8} {numbers : List UInt8}
    (consecutive : Consecutive first numbers) (circle : 256 ≤ numbers.length) (number : UInt8) :
    number ∈ numbers := by
  have near : (number - first).toNat < numbers.length :=
    Nat.lt_of_lt_of_le (number - first).toNat_lt circle
  rw [consecutive, List.mem_map]
  refine ⟨(number - first).toNat, List.mem_range.mpr near, ?_⟩
  rw [UInt8.ofNat_toNat, UInt8.add_comm, UInt8.sub_add_cancel]

section

variable {inUse : UInt8 → Bool} {count : Nat} {candidate id : UInt8}

theorem consecutive_tries (inUse : UInt8 → Bool) (count : Nat) (candidate : UInt8) :
    Consecutive candidate (tries inUse count candidate) := by
  induction count generalizing candidate with
  | zero => rfl
  | succ count ih =>
    unfold tries
    split
    · exact (ih (candidate + 1)).cons
    · exact Consecutive.cons rfl

/-- A search ends behind the last ID that it has looked at. -/
theorem probe_snd (inUse : UInt8 → Bool) (count : Nat) (candidate : UInt8) :
    (probe inUse count candidate).2 =
      candidate + UInt8.ofNat (tries inUse count candidate).length := by
  induction count generalizing candidate with
  | zero => exact (UInt8.add_zero candidate).symm
  | succ count ih =>
    unfold probe tries
    split
    · rw [ih, List.length_cons, ofNat_succ_add]
    · rfl

/-- The ID that is given out is the last one that a search has looked at. -/
theorem probe_snd_of_eq_some (found : (probe inUse count candidate).1 = some id) :
    (probe inUse count candidate).2 = id + 1 := by
  induction count generalizing candidate with
  | zero => cases found
  | succ count ih =>
    unfold probe at found ⊢
    split
    · next taken =>
      rw [if_pos taken] at found
      exact ih found
    · next free =>
      rw [if_neg free] at found
      cases found
      rfl

/-- All IDs that a search looks at are in use, except for the one that is given out. -/
theorem found_or_inUse_of_mem (looked : id ∈ tries inUse count candidate) :
    (probe inUse count candidate).1 = some id ∨ inUse id = true := by
  induction count generalizing candidate with
  | zero => cases looked
  | succ count ih =>
    unfold tries at looked
    unfold probe
    rcases List.mem_cons.mp looked with rfl | later
    · split
      · next taken => exact .inr taken
      · exact .inl rfl
    · split at later
      · next taken =>
        rw [if_pos taken]
        exact ih later
      · cases later

end

/-! ## Calls one after the other -/

theorem candidate_serve (ids : InvokeIds) (call : InvokeIdCall) (peer : Address) :
    (ids.serve call).candidate peer =
      if call.peer = peer then ids.candidate peer + UInt8.ofNat (ids.lookedAt call).length
      else ids.candidate peer := by
  show ((ids.next.insert call.peer _).find? peer).getD ids.start = _
  rw [Table.find?_insert]
  split
  · next same =>
    subst same
    exact probe_snd call.inUse idCount _
  · rfl

/-- What is given out depends on nothing but the ID that is tried first. -/
theorem answer_congr {call : InvokeIdCall}
    (same : ids.candidate call.peer = other.candidate call.peer) :
    ids.answer call = other.answer call := by
  show (probe call.inUse idCount (ids.candidate call.peer)).1 = _
  rw [same]
  rfl

/-- Where the next call begins depends on nothing but where this one has begun. -/
theorem candidate_serve_congr (call : InvokeIdCall)
    (same : ids.candidate peer = other.candidate peer) :
    (ids.serve call).candidate peer = (other.serve call).candidate peer := by
  rw [candidate_serve, candidate_serve, same]
  split
  · next own => rw [lookedAt, lookedAt, own, same]
  · rfl

theorem answers_congr (same : ∀ peer, ids.candidate peer = other.candidate peer)
    (calls : List InvokeIdCall) : ids.answers calls = other.answers calls := by
  induction calls generalizing ids other with
  | nil => rfl
  | cons call rest ih =>
    rw [answers, answers, answer_congr (same call.peer),
      ih fun peer => candidate_serve_congr call (same peer)]

/-- The calls for other devices do not matter. -/
theorem answersTo_eq (same : ids.candidate peer = other.candidate peer)
    (calls : List InvokeIdCall) :
    ids.answersTo peer calls = other.answers (calls.filter (·.peer = peer)) := by
  induction calls generalizing ids other with
  | nil => rfl
  | cons call rest ih =>
    rw [answersTo, answers, List.zip_cons_cons, List.filter_cons, List.filter_cons]
    by_cases own : call.peer = peer
    · rw [if_pos (decide_eq_true own), if_pos (decide_eq_true own), List.map_cons, answers]
      subst own
      exact congrArg₂ List.cons (answer_congr same) (ih (candidate_serve_congr call same))
    · rw [if_neg (by simpa using own), if_neg (by simpa using own)]
      refine ih ?_
      rw [candidate_serve, if_neg own, same]

/-- The IDs that the calls for a device look at follow each other, and the next call goes on behind
them. -/
theorem consecutive_lookedAtFor (peer : Address) (ids : InvokeIds) (calls : List InvokeIdCall) :
    Consecutive (ids.candidate peer) (ids.lookedAtFor peer calls) ∧
      (ids.run calls).candidate peer =
        ids.candidate peer + UInt8.ofNat (ids.lookedAtFor peer calls).length := by
  induction calls generalizing ids with
  | nil => exact ⟨rfl, (UInt8.add_zero _).symm⟩
  | cons call rest ih =>
    obtain ⟨behind, ends⟩ := ih (ids.serve call)
    rw [candidate_serve] at behind ends
    rw [run, lookedAtFor]
    split
    · next own =>
      rw [if_pos own] at behind ends
      refine ⟨Consecutive.append ?_ behind, ?_⟩
      · rw [← own]
        exact consecutive_tries call.inUse idCount _
      · rw [ends, List.length_append, UInt8.ofNat_add, UInt8.add_assoc]
    · next foreign =>
      rw [if_neg foreign] at behind ends
      exact ⟨behind, ends⟩

theorem exists_call_of_mem_lookedAtFor {id : UInt8} (looked : id ∈ ids.lookedAtFor peer calls) :
    ∃ before call after, calls = before ++ call :: after ∧ call.peer = peer ∧
      id ∈ (ids.run before).lookedAt call := by
  induction calls generalizing ids with
  | nil => cases looked
  | cons first rest ih =>
    rcases List.mem_append.mp looked with now | later
    · split at now
      · next own => exact ⟨[], first, rest, rfl, own, now⟩
      · cases now
    · obtain ⟨before, call, after, rfl, own, found⟩ := ih later
      exact ⟨first :: before, call, after, rfl, own, found⟩

theorem run_append (ids : InvokeIds) (calls more : List InvokeIdCall) :
    ids.run (calls ++ more) = (ids.run calls).run more := by
  induction calls generalizing ids with
  | nil => rfl
  | cons call rest ih => exact ih _

theorem candidate_of_answer {call : InvokeIdCall} {id : UInt8} (given : ids.answer call = some id) :
    (ids.serve call).candidate call.peer = id + 1 := by
  rw [candidate_serve, if_pos rfl, ← probe_snd_of_eq_some given]
  exact (probe_snd call.inUse idCount _).symm

theorem lookedAtFor_append (peer : Address) (ids : InvokeIds) (calls more : List InvokeIdCall) :
    ids.lookedAtFor peer (calls ++ more) =
      ids.lookedAtFor peer calls ++ (ids.run calls).lookedAtFor peer more := by
  induction calls generalizing ids with
  | nil => rfl
  | cons call rest ih =>
    rw [List.cons_append, lookedAtFor, ih, ← List.append_assoc]
    rfl

/-- From one time that an ID is given out to a later one, each ID is looked at. -/
theorem mem_lookedAtFor_of_answers {first last : InvokeIdCall} {between : List InvokeIdCall}
    {id : UInt8} (same : first.peer = last.peer) (given : ids.answer first = some id)
    (again : (ids.run (first :: between)).answer last = some id) (each : UInt8) :
    each ∈ (ids.serve first).lookedAtFor last.peer (between ++ [last]) := by
  obtain ⟨consecutive, ends⟩ :=
    consecutive_lookedAtFor last.peer (ids.serve first) (between ++ [last])
  have begins : (ids.serve first).candidate last.peer = id + 1 := same ▸ candidate_of_answer given
  have returns : ((ids.serve first).run (between ++ [last])).candidate last.peer = id + 1 := by
    rw [run_append]
    exact candidate_of_answer again
  -- The calls end where they have begun and have looked at something, so they make a full circle.
  have looked : 0 < ((ids.serve first).lookedAtFor last.peer (between ++ [last])).length := by
    rw [lookedAtFor_append, lookedAtFor, if_pos rfl, List.length_append, List.length_append]
    exact Nat.lt_of_lt_of_le (Nat.succ_pos _) (Nat.le_trans (Nat.le_add_right _ _)
      (Nat.le_add_left _ _))
  have circle := congrArg UInt8.toNat ends
  rw [returns, begins] at circle
  generalize id + 1 = next at circle
  rw [UInt8.toNat_add, UInt8.toNat_ofNat'] at circle
  have inside := next.toNat_lt
  exact consecutive.mem (by omega) each

/-- Whatever the first ID is and whatever calls have been made: an ID is given out unless all are in
use, and it is one that is not. From one time that an ID is given out for a device to a later one,
each other ID is given out for the device or found in use by a call for it. A call that gives out
nothing does not change what later calls give out, and neither do calls for other devices. -/
theorem allocated_in_turn (start : UInt8) (calls : List InvokeIdCall) :
    (∀ call, (((new start).run calls).answer call = none ↔ ∀ id, call.inUse id = true) ∧
        ∀ id, ((new start).run calls).answer call = some id → call.inUse id = false) ∧
      (∀ first between last id, first.peer = last.peer →
        ((new start).run calls).answer first = some id →
        ((new start).run (calls ++ first :: between)).answer last = some id →
        ∀ each, ∃ before call after,
          between ++ [last] = before ++ call :: after ∧ call.peer = last.peer ∧
            (((new start).run (calls ++ first :: before)).answer call = some each ∨
              ((new start).run (calls ++ first :: before)).FindsInUse call each)) ∧
      (∀ call, ((new start).run calls).answer call = none → ∀ later,
        (((new start).run calls).serve call).answers later =
          ((new start).run calls).answers later) ∧
      ∀ peer, (new start).answersTo peer calls =
        (new start).answers (calls.filter (·.peer = peer)) := by
  refine ⟨fun call => ⟨⟨inUse_of_allocate_eq_none, ?_⟩, fun id => not_inUse_of_allocate⟩, ?_, ?_,
    fun peer => answersTo_eq rfl calls⟩
  · intro full
    cases given : ((new start).run calls).answer call with
    | none => rfl
    | some id =>
      have free : call.inUse id = false := not_inUse_of_allocate given
      rw [full id] at free
      cases free
  · intro first between last id same given again each
    rw [run_append] at again
    obtain ⟨before, call, after, split, own, looked⟩ :=
      exists_call_of_mem_lookedAtFor (mem_lookedAtFor_of_answers same given again each)
    refine ⟨before, call, after, split, own, ?_⟩
    rw [run_append]
    exact (found_or_inUse_of_mem looked).imp_right fun taken => ⟨looked, taken⟩
  · intro call missing later
    refine answers_congr (fun peer => ?_) later
    have unmoved := allocate_of_eq_none missing
    show InvokeIds.candidate (InvokeIds.allocate _ call.peer call.inUse).2 peer = _
    rw [unmoved, candidate, Table.find?_insert]
    split
    · next own => rw [← own]; rfl
    · rfl

end InvokeIds

end BACnet
