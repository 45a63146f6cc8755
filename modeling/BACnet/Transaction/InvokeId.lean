import BACnet.Network.Address
import BACnet.Table

/-!
# Invoke IDs

The invoke ID tells the exchanges with one device apart. IDs are given out in turn, so that an ID
that has just become free is the last one to be used again; IDs in use are skipped.
-/

namespace BACnet

/-- The ID to be tried next, for each device that has had one. -/
structure InvokeIds where
  /-- The first ID for a device that has had none. -/
  start : UInt8
  next : Table Address UInt8
  deriving DecidableEq, Repr

namespace InvokeIds

/-- No device has had an ID. -/
def new (start : UInt8) : InvokeIds := ⟨start, .empty⟩

/-- The number of different IDs. -/
def idCount : Nat := 256

/-- Tries one ID after another, at most `count` of them, until one is not in use: this ID, if there
is one, and the ID to be tried next. -/
def probe (inUse : UInt8 → Bool) : (count : Nat) → UInt8 → Option UInt8 × UInt8
  | 0, candidate => (none, candidate)
  | count + 1, candidate =>
    if inUse candidate then probe inUse count (candidate + 1) else (some candidate, candidate + 1)

/-- The ID that is tried first for a device. -/
def candidate (ids : InvokeIds) (peer : Address) : UInt8 :=
  (ids.next.find? peer).getD ids.start

/-- Gives out an ID that is not in use, or none if all are in use. -/
def allocate (ids : InvokeIds) (peer : Address) (inUse : UInt8 → Bool) :
    Option UInt8 × InvokeIds :=
  let probed := probe inUse idCount (ids.candidate peer)
  (probed.1, { ids with next := ids.next.insert peer probed.2 })

/-- Starts again with the first ID for a device. -/
def forget (ids : InvokeIds) (peer : Address) : InvokeIds :=
  { ids with next := ids.next.erase peer }

/-! ## Laws -/

theorem not_inUse_of_probe {inUse : UInt8 → Bool} {count : Nat} {candidate id : UInt8}
    (found : (probe inUse count candidate).1 = some id) : inUse id = false := by
  induction count generalizing candidate with
  | zero => simp [probe] at found
  | succ count ih =>
    unfold probe at found
    split at found
    · exact ih found
    · next free =>
      cases found
      simpa using free

/-- An ID that is given out is not in use. -/
theorem not_inUse_of_allocate {ids : InvokeIds} {peer : Address} {inUse : UInt8 → Bool}
    {id : UInt8} (given : (ids.allocate peer inUse).1 = some id) : inUse id = false :=
  not_inUse_of_probe given

theorem inUse_of_probe_eq_none {inUse : UInt8 → Bool} {count : Nat} {candidate : UInt8}
    (missing : (probe inUse count candidate).1 = none) {offset : Nat} (inside : offset < count) :
    inUse (candidate + UInt8.ofNat offset) = true := by
  induction count generalizing candidate offset with
  | zero => exact absurd inside (Nat.not_lt_zero offset)
  | succ count ih =>
    unfold probe at missing
    split at missing
    · next taken =>
      cases offset with
      | zero => simpa using taken
      | succ offset =>
        have later := ih missing (Nat.lt_of_succ_lt_succ inside)
        rw [UInt8.add_assoc, UInt8.add_comm 1, ← UInt8.ofNat_one, ← UInt8.ofNat_add] at later
        exact later
    · cases missing

/-- If no ID is given out, then all are in use. -/
theorem inUse_of_allocate_eq_none {ids : InvokeIds} {peer : Address} {inUse : UInt8 → Bool}
    (missing : (ids.allocate peer inUse).1 = none) (id : UInt8) : inUse id = true := by
  have missing : (probe inUse idCount (ids.candidate peer)).1 = none := missing
  have taken := inUse_of_probe_eq_none missing (id - ids.candidate peer).toNat_lt
  rw [UInt8.ofNat_toNat, UInt8.add_comm, UInt8.sub_add_cancel] at taken
  exact taken

/-- As long as an ID is free one is given out. -/
theorem exists_allocate (ids : InvokeIds) (peer : Address) (inUse : UInt8 → Bool) {free : UInt8}
    (unused : inUse free = false) : ∃ id, (ids.allocate peer inUse).1 = some id := by
  cases found : (ids.allocate peer inUse).1 with
  | some id => exact ⟨id, rfl⟩
  | none =>
    rw [inUse_of_allocate_eq_none found free] at unused
    cases unused

/-- If no ID is free, then the next one moves on with every try. -/
theorem probe_snd_of_eq_none {inUse : UInt8 → Bool} {count : Nat} {candidate : UInt8}
    (missing : (probe inUse count candidate).1 = none) :
    (probe inUse count candidate).2 = candidate + UInt8.ofNat count := by
  induction count generalizing candidate with
  | zero => exact (UInt8.add_zero candidate).symm
  | succ count ih =>
    unfold probe at missing ⊢
    split at missing
    · next taken =>
      rw [if_pos taken, ih missing, UInt8.add_assoc, UInt8.ofNat_add, UInt8.add_comm 1]
      rfl
    · cases missing

/-- There are as many tries as IDs, so that one that fails ends where it has begun. -/
theorem allocate_of_eq_none {ids : InvokeIds} {peer : Address} {inUse : UInt8 → Bool}
    (missing : (ids.allocate peer inUse).1 = none) :
    (ids.allocate peer inUse).2 =
      { ids with next := ids.next.insert peer (ids.candidate peer) } := by
  have missing : (probe inUse idCount (ids.candidate peer)).1 = none := missing
  have round : UInt8.ofNat idCount = 0 := rfl
  have ended := probe_snd_of_eq_none missing
  rw [round, UInt8.add_zero] at ended
  unfold allocate
  dsimp only
  rw [ended]

end InvokeIds

end BACnet
