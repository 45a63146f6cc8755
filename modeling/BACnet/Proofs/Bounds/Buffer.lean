import BACnet.Proofs.Bounds.Guarded
import BACnet.Proofs.Octets.Reading

/-!
# Bounds of the buffer

The buffer through which the frames and the messages between routers are read on a machine: all
octets, and the index of the next one. A read through it mirrors a function that takes octets from
the head of a list and leaves the rest (`BufferRead.Mirrors`).
-/

namespace BACnet

/-- A buffer that keeps all octets and the index of the next one. -/
structure IndexedBuffer where
  data : Octets
  position : Nat
  deriving DecidableEq, Repr

/-- A read through such a buffer. -/
abbrev BufferRead (ε : Type) := StateT IndexedBuffer (Guarded ε)

namespace IndexedBuffer

/-- A buffer at the head of the octets. -/
def new (data : Octets) : IndexedBuffer := ⟨data, 0⟩

/-- The octets that are still to be read. -/
def remaining (buffer : IndexedBuffer) : Octets := buffer.data.drop buffer.position

/-- Whether `count` octets are still to be read; none are if the index is beyond the end. -/
def hasRemaining (buffer : IndexedBuffer) (count : Nat) : Bool :=
  count ≤ buffer.data.length - buffer.position

/-- The next `count` octets and the index behind them, if a word holds it. -/
def next? (buffer : IndexedBuffer) (count : Nat) : Option (Octets × Nat) := do
  let behind ← Guarded.plus? buffer.position count
  let octets ← Guarded.slice? buffer.data buffer.position behind
  some (octets, behind)

/-- The index is not beyond the end, and a word holds it. -/
structure Within (buffer : IndexedBuffer) : Prop where
  position : buffer.position ≤ buffer.data.length
  fits : buffer.data.length ≤ maxCount

theorem within_new {data : Octets} (fits : data.length ≤ maxCount) : (new data).Within :=
  ⟨Nat.zero_le _, fits⟩

variable {buffer : IndexedBuffer}

theorem length_remaining : buffer.remaining.length = buffer.data.length - buffer.position :=
  List.length_drop

theorem hasRemaining_eq (count : Nat) :
    buffer.hasRemaining count = decide (count ≤ buffer.remaining.length) := by
  rw [hasRemaining, length_remaining]

theorem next?_eq (within : buffer.Within) (count : Nat) :
    buffer.next? count =
      (Octets.take? count buffer.remaining).map (·, buffer.position + count) := by
  have fits := within.fits
  rw [next?, Guarded.plus?, remaining,
    ← Guarded.slice?_add buffer.data buffer.position count within.position]
  split
  · show (Guarded.slice? _ _ _ >>= _) = _
    cases Guarded.slice? buffer.data buffer.position (buffer.position + count) <;> rfl
  · next large =>
    rw [Guarded.slice?, if_neg fun inside => large (Nat.le_trans inside.2 fits)]
    rfl

theorem Within.remaining_fits (within : buffer.Within) : buffer.remaining.length ≤ maxCount := by
  rw [length_remaining]
  exact Nat.le_trans (Nat.sub_le _ _) within.fits

end IndexedBuffer

open IndexedBuffer (remaining Within)

namespace BufferRead

variable {ε α β : Type}

/-- The read takes the same octets from the buffer as the plain one from the list. -/
abbrev Mirrors (read : BufferRead ε α) (plain : Octets → Except ε (α × Octets)) : Prop :=
  Guarded.Mirrors remaining Within read plain

/-- The read makes the same of the buffer as the plain one of the list. -/
abbrev Yields (read : BufferRead ε α) (plain : Octets → Except ε α) : Prop :=
  Guarded.Yields remaining Within read plain

/-! ## Reads -/

/-- Moves the index behind the next `count` octets. -/
def advance (count : Nat) : BufferRead ε Unit := do
  let buffer ← get
  set { buffer with position := ← StateT.lift (Guarded.plus buffer.position count) }

/-- Reads an octet. -/
def octet (missing : ε) : BufferRead ε UInt8 := do
  let buffer ← get
  match buffer.data[buffer.position]? with
  | some octet =>
    advance 1
    pure octet
  | none => throw missing

/-- Reads `count` octets, if there are as many. -/
def octets? (count : Nat) : BufferRead ε (Option Octets) := do
  let buffer ← get
  match buffer.next? count with
  | some (octets, behind) =>
    set { buffer with position := behind }
    pure (some octets)
  | none => pure none

/-- Reads `count` octets. -/
def octets (count : Nat) (missing : ε) : BufferRead ε Octets := do
  StateT.lift (Guarded.orError missing (← octets? count))

/-- Reads `count` octets and makes a value of them. -/
def spelled (count : Nat) (missing : ε) (spell : Octets → Guarded ε α) : BufferRead ε α := do
  StateT.lift (spell (← octets count missing))

/-- Reads a word of two octets. -/
def word (missing : ε) : BufferRead ε UInt16 :=
  spelled 2 missing fun octets => do
    pure (Octets.word16 (← Guarded.octet octets 0) (← Guarded.octet octets 1))

/-- Skips `count` octets, and gives them back as a part of the whole. -/
def skipped (count : Nat) (missing : ε) : BufferRead ε Octets := do
  let buffer ← get
  if buffer.hasRemaining count then
    advance count
    let behind ← StateT.lift (Guarded.plus buffer.position count)
    StateT.lift (Guarded.slice buffer.data buffer.position behind)
  else throw missing

/-- The octets behind the index. The index stays. -/
def rest : BufferRead ε Octets := do
  let buffer ← get
  StateT.lift (Guarded.sliceFrom buffer.data buffer.position)

/-- What a read makes of the octets. -/
def decode (read : BufferRead ε α) (data : Octets) : Guarded ε α :=
  Prod.fst <$> read.run (.new data)

/-! ## What they take -/

theorem run_advance (buffer : IndexedBuffer) (within : buffer.Within) {count : Nat}
    (there : count ≤ buffer.remaining.length) :
    (advance count : BufferRead ε Unit).run buffer =
      pure ((), { buffer with position := buffer.position + count }) := by
  have fits := within.fits
  rw [IndexedBuffer.length_remaining] at there
  have position := within.position
  simp only [advance, StateT.run_bind, StateT.run_get, pure_bind, StateT.run_lift]
  rw [Guarded.plus_of_le (by omega)]
  rfl

theorem within_advance (buffer : IndexedBuffer) (within : buffer.Within) {count : Nat}
    (there : count ≤ buffer.remaining.length) :
    IndexedBuffer.Within { buffer with position := buffer.position + count } := by
  rw [IndexedBuffer.length_remaining] at there
  have position := within.position
  exact ⟨by dsimp only; omega, within.fits⟩

theorem remaining_advance (buffer : IndexedBuffer) (count : Nat) :
    remaining { buffer with position := buffer.position + count } =
      buffer.remaining.drop count := by
  rw [remaining, remaining, List.drop_drop]

theorem mirrors_octet (missing : ε) : Mirrors (octet missing) fun
    | [] => .error missing
    | octet :: rest => .ok (octet, rest) := by
  intro buffer within
  have unfolded : (octet missing).run buffer = match buffer.data[buffer.position]? with
      | some octet => do
        let ((), last) ← (advance 1).run buffer
        pure (octet, last)
      | none => throw missing := by
    simp only [octet, StateT.run_bind, StateT.run_get, pure_bind]
    cases buffer.data[buffer.position]? <;> rfl
  have head : buffer.data[buffer.position]? = buffer.remaining.head? := by
    rw [remaining, List.head?_drop]
  rw [unfolded, head]
  cases remains : buffer.remaining with
  | nil => rfl
  | cons first others =>
    have there : 1 ≤ buffer.remaining.length := by
      rw [remains]
      exact Nat.le_add_left 1 others.length
    rw [List.head?_cons]
    dsimp only
    rw [run_advance buffer within there]
    refine ⟨_, rfl, ?_, within_advance buffer within there⟩
    rw [remaining_advance, remains, List.drop_one, List.tail_cons]

theorem mirrors_octets? (count : Nat) : Mirrors (octets? (ε := ε) count) fun data =>
    match Octets.take? count data with
    | some octets => .ok (some octets, data.drop count)
    | none => .ok (none, data) := by
  intro buffer within
  have unfolded : (octets? count : BufferRead ε (Option Octets)).run buffer =
      match buffer.next? count with
      | some (octets, behind) => pure (some octets, { buffer with position := behind })
      | none => pure (none, buffer) := by
    simp only [octets?, StateT.run_bind, StateT.run_get, pure_bind]
    cases buffer.next? count <;> rfl
  rw [unfolded, IndexedBuffer.next?_eq within]
  dsimp only
  cases takes : Octets.take? count buffer.remaining with
  | none => exact ⟨buffer, rfl, rfl, within⟩
  | some octets =>
    exact ⟨_, rfl, remaining_advance buffer count,
      within_advance buffer within (Octets.le_length_of_take? takes)⟩

theorem mirrors_orError (missing : ε) (found : Option α) :
    Mirrors (StateT.lift (Guarded.orError missing found)) fun data =>
      match found with
      | some value => .ok (value, data)
      | none => .error missing := by
  cases found with
  | none => exact Guarded.Mirrors.lift (.error missing)
  | some value => exact Guarded.Mirrors.lift (.ok value)

theorem mirrors_octets (count : Nat) (missing : ε) : Mirrors (octets count missing) fun data =>
    match Octets.take? count data with
    | some octets => .ok (octets, data.drop count)
    | none => .error missing := by
  refine ((mirrors_octets? count).bind (mirrors_orError missing)).congr fun data => ?_
  cases Octets.take? count data <;> rfl

theorem mirrors_spelled {count : Nat} {spell : Octets → Guarded ε α} {value : Octets → α}
    (spells : ∀ octets, octets.length = count → spell octets = pure (value octets)) (missing : ε) :
    Mirrors (spelled count missing spell) fun data =>
      match Octets.take? count data with
      | some octets => .ok (value octets, data.drop count)
      | none => .error missing := by
  intro buffer within
  have read := mirrors_octets count missing buffer within
  rw [spelled, StateT.run_bind]
  dsimp only at read ⊢
  cases takes : Octets.take? count buffer.remaining with
  | none =>
    rw [takes] at read
    rw [show (octets count missing).run buffer = throw missing from read]
    rfl
  | some octets =>
    rw [takes] at read
    obtain ⟨last, runs, seen, inside⟩ := read
    rw [runs, pure_bind, spells octets (Octets.length_of_take? takes)]
    exact ⟨last, rfl, seen, inside⟩

theorem mirrors_word (missing : ε) : Mirrors (word missing) fun
    | high :: low :: rest => .ok (Octets.word16 high low, rest)
    | _ => .error missing := by
  have spells (octets : Octets) (two : octets.length = 2) :
      (do pure (Octets.word16 (← Guarded.octet octets 0) (← Guarded.octet octets 1)) :
        Guarded ε UInt16) = pure (UInt16.ofNat (Octets.ofBigEndian octets)) := by
    obtain ⟨high, low, rfl⟩ := Octets.exists_of_length_two two
    rfl
  refine (mirrors_spelled spells missing).congr fun data => ?_
  match data with
  | [] | [_] => rfl
  | high :: low :: rest =>
    rw [show Octets.take? 2 (high :: low :: rest) = some [high, low] from
      Octets.take?_append [high, low] rest]
    rfl

theorem mirrors_skipped (count : Nat) (missing : ε) : Mirrors (skipped count missing) fun data =>
    match Octets.take? count data with
    | some octets => .ok (octets, data.drop count)
    | none => .error missing := by
  intro buffer within
  have unfolded : (skipped count missing).run buffer =
      if buffer.hasRemaining count then do
        let ((), last) ← (advance count).run buffer
        let behind ← Guarded.plus buffer.position count
        let octets ← Guarded.slice buffer.data buffer.position behind
        pure (octets, last)
      else throw missing := by
    simp only [skipped, StateT.run_bind, StateT.run_get, pure_bind]
    split
    · simp only [StateT.run_bind, StateT.run_lift, bind_assoc, pure_bind]
    · rfl
  have fits := within.fits
  have slices := Guarded.slice?_add buffer.data buffer.position count within.position
  rw [unfolded, IndexedBuffer.hasRemaining_eq]
  dsimp only
  unfold Octets.take? at slices ⊢
  by_cases there : count ≤ buffer.remaining.length
  · have short : buffer.position + count ≤ buffer.data.length := by
      rw [IndexedBuffer.length_remaining] at there
      have position := within.position
      omega
    rw [← remaining, if_pos there] at slices
    rw [if_pos (decide_eq_true there), if_pos there, run_advance buffer within there, pure_bind]
    dsimp only
    rw [Guarded.plus_of_le (Nat.le_trans short fits), pure_bind, Guarded.slice, slices]
    exact ⟨_, rfl, remaining_advance buffer count, within_advance buffer within there⟩
  · rw [if_neg (by rw [decide_eq_true_eq]; exact there), if_neg there]
    rfl

theorem run_rest {buffer : IndexedBuffer} (within : buffer.Within) :
    (rest : BufferRead ε Octets).run buffer = pure (buffer.remaining, buffer) := by
  simp only [rest, StateT.run_bind, StateT.run_get, pure_bind, StateT.run_lift]
  rw [Guarded.sliceFrom_of_le within.position, pure_bind]
  rfl

theorem mirrors_rest : Mirrors (rest : BufferRead ε Octets) fun data => .ok (data, data) :=
  fun buffer within => ⟨buffer, run_rest within, rfl, within⟩

theorem decode_eq {read : BufferRead ε α} {plain : Octets → Except ε α} (yields : Yields read plain)
    {data : Octets} (fits : data.length ≤ maxCount) : decode read data = Guarded.of (plain data) :=
  yields _ (IndexedBuffer.within_new fits)

end BufferRead

end BACnet
