import BACnet.Data.Header

/-!
# Bounds

On a machine, an index beyond the end of an array, a part of an array whose ends do not fit, or a
number that a word cannot hold stops the program. Here are the operations that can do so
(`Guarded.octet`, `Guarded.slice`, `Guarded.plus` and others), and the steps through a buffer that
are made of them. A guarded step `Mirrors` a plain one if it does the same, and so never stops the
program; it `Yields` the result of a plain one that does not tell what it leaves.
-/

namespace BACnet

/-- What stops a program. -/
inductive OutOfBounds where
  /-- There is no octet with this index. -/
  | index
  /-- The ends of a part do not fit the array. -/
  | slice
  /-- Octets are copied to a place of another length. -/
  | copy
  /-- A sum is too large for a word. -/
  | sum
  /-- A difference is below zero. -/
  | difference
  /-- An octet is shifted by more bits than it has. -/
  | shift
  deriving DecidableEq, Repr

/-- A computation on a machine: it has a result, fails with an error of its own, or stops. -/
abbrev Guarded (ε : Type) := ExceptT ε (Except OutOfBounds)

namespace Guarded

variable {ε φ α β : Type}

/-- A computation that does not stop the program. -/
def of (result : Except ε α) : Guarded ε α := ExceptT.mk (.ok result)

/-- The end of the program. -/
def stop (reason : OutOfBounds) : Guarded ε α := ExceptT.mk (.error reason)

/-- A value that may be missing, or else an error. -/
def orError (error : ε) : Option α → Guarded ε α
  | some value => pure value
  | none => throw error

/-- The same computation, whose error is told in another way. -/
def mapError (f : ε → φ) (computation : Guarded ε α) : Guarded φ α := ExceptT.adapt f computation

/-! ## Operations -/

/-- The octet with the index. -/
def octet (data : Octets) (index : Nat) : Guarded ε UInt8 :=
  match data[index]? with
  | some octet => pure octet
  | none => stop .index

/-- The octets from `start` up to `behind`, if the array has them. -/
def slice? (data : Octets) (start behind : Nat) : Option Octets :=
  if start ≤ behind ∧ behind ≤ data.length then some ((data.take behind).drop start) else none

/-- The octets from `start` up to `behind`. -/
def slice (data : Octets) (start behind : Nat) : Guarded ε Octets :=
  match slice? data start behind with
  | some octets => pure octets
  | none => stop .slice

/-- The octets from `start` on. -/
def sliceFrom (data : Octets) (start : Nat) : Guarded ε Octets := slice data start data.length

/-- The target with the source copied to its end, from `start` on. -/
def copyFrom (target : Octets) (start : Nat) (source : Octets) : Guarded ε Octets := do
  let place ← sliceFrom target start
  if place.length = source.length then pure (target.take start ++ source) else stop .copy

/-- The sum of two numbers, if a word holds it. -/
def plus? (a b : Nat) : Option Nat := if a + b ≤ maxCount then some (a + b) else none

/-- The sum of two numbers. -/
def plus (a b : Nat) : Guarded ε Nat :=
  match plus? a b with
  | some sum => pure sum
  | none => stop .sum

/-- The difference of two numbers. -/
def minus (a b : Nat) : Guarded ε Nat := if b ≤ a then pure (a - b) else stop .difference

/-- An octet with its bits moved up by `count` places. -/
def shiftLeft (octet : UInt8) (count : Nat) : Guarded ε UInt8 :=
  if count < 8 then pure (UInt8.ofNat (octet.toNat <<< count)) else stop .shift

/-- The whole parts of `size` octets each. What is behind the last of them is left out. -/
def chunks (size : Nat) (data : Octets) : List Octets :=
  if 0 < size ∧ size ≤ data.length then data.take size :: chunks size (data.drop size) else []
termination_by data.length
decreasing_by
  rw [List.length_drop]
  omega

/-! ## Laws -/

theorem of_ok (value : α) : of (.ok value) = (pure value : Guarded ε α) := rfl

theorem of_bind (first : Except ε α) (second : α → Except ε β) :
    (of first >>= fun value => of (second value)) = of (first >>= second) := by
  cases first <;> rfl

theorem of_map (f : α → β) (result : Except ε α) : f <$> of result = of (f <$> result) := by
  cases result <;> rfl

theorem orError_map (error : ε) (f : α → β) (found : Option α) :
    f <$> orError error found = orError error (f <$> found) := by
  cases found <;> rfl

theorem slice?_add (data : Octets) (start length : Nat) (within : start ≤ data.length) :
    slice? data start (start + length) = Octets.take? length (data.drop start) := by
  unfold slice? Octets.take?
  by_cases enough : start + length ≤ data.length
  · rw [if_pos ⟨Nat.le_add_right _ _, enough⟩, if_pos (by rw [List.length_drop]; omega),
      List.drop_take, Nat.add_sub_cancel_left]
  · rw [if_neg (fun ⟨_, fits⟩ => enough fits), if_neg (by rw [List.length_drop]; omega)]

theorem sliceFrom_of_le {data : Octets} {start : Nat} (within : start ≤ data.length) :
    sliceFrom data start = (pure (data.drop start) : Guarded ε Octets) := by
  rw [sliceFrom, slice, slice?, if_pos ⟨within, Nat.le_refl _⟩, List.take_length]

theorem plus_of_le {a b : Nat} (fits : a + b ≤ maxCount) :
    plus a b = (pure (a + b) : Guarded ε Nat) := by
  rw [plus, plus?, if_pos fits]

theorem minus_of_le {a b : Nat} (fits : b ≤ a) : minus a b = (pure (a - b) : Guarded ε Nat) :=
  if_pos fits

theorem copyFrom_of_eq {target source : Octets} {start : Nat}
    (fits : start + source.length = target.length) :
    copyFrom target start source = (pure (target.take start ++ source) : Guarded ε Octets) := by
  rw [copyFrom, sliceFrom_of_le (by omega)]
  exact if_pos (by rw [List.length_drop]; omega)

theorem shiftLeft_of_lt {octet : UInt8} {count : Nat} (small : count < 8) :
    shiftLeft octet count = (pure (UInt8.ofNat (octet.toNat <<< count)) : Guarded ε UInt8) :=
  if_pos small

theorem chunks_append {size : Nat} (some : 0 < size) (first : Octets) (whole : first.length = size)
    (rest : Octets) : chunks size (first ++ rest) = first :: chunks size rest := by
  subst whole
  rw [chunks, if_pos ⟨some, by simp⟩, List.take_left, List.drop_left]

theorem chunks_two (a b : UInt8) (rest : Octets) :
    chunks 2 (a :: b :: rest) = [a, b] :: chunks 2 rest :=
  chunks_append Nat.zero_lt_two [a, b] rfl rest

theorem chunks_four (a b c d : UInt8) (rest : Octets) :
    chunks 4 (a :: b :: c :: d :: rest) = [a, b, c, d] :: chunks 4 rest :=
  chunks_append (Nat.succ_pos 3) [a, b, c, d] rfl rest

theorem chunks_of_lt {size : Nat} {data : Octets} (short : data.length < size) :
    chunks size data = [] := by
  rw [chunks, if_neg fun ⟨_, fits⟩ => Nat.not_le_of_lt short fits]

/-! ## Steps through a state -/

variable {σ τ : Type} {view : σ → τ} {within : σ → Prop}

/-- The guarded step ends as the plain one, with the state that the plain one sees. -/
def Agrees (view : σ → τ) (within : σ → Prop) (ends : Guarded ε (α × σ)) :
    Except ε (α × τ) → Prop
  | .error error => ends = throw error
  | .ok (result, behind) => ∃ last, ends = pure (result, last) ∧ view last = behind ∧ within last

/-- The guarded step does what the plain one does with what it sees of the state. -/
def Mirrors (view : σ → τ) (within : σ → Prop) (guarded : StateT σ (Guarded ε) α)
    (plain : τ → Except ε (α × τ)) : Prop :=
  ∀ state, within state → Agrees view within (guarded.run state) (plain (view state))

theorem Mirrors.pure (result : α) :
    Mirrors view within (pure result : StateT σ (Guarded ε) α) fun state => .ok (result, state) :=
  fun state placed => ⟨state, rfl, rfl, placed⟩

theorem Mirrors.throw (error : ε) :
    Mirrors view within (throw error : StateT σ (Guarded ε) α) fun _ => .error error :=
  fun _ _ => rfl

/-- A computation that does not look at the state. -/
theorem Mirrors.lift (result : Except ε α) :
    Mirrors view within (StateT.lift (of result)) fun state => result.map (·, state) := by
  intro state placed
  cases result with
  | error error => rfl
  | ok result => exact ⟨state, rfl, rfl, placed⟩

theorem Mirrors.bind {first : StateT σ (Guarded ε) α} {plain : τ → Except ε (α × τ)}
    (mirrors : Mirrors view within first plain) {second : α → StateT σ (Guarded ε) β}
    {next : α → τ → Except ε (β × τ)}
    (goesOn : ∀ result, Mirrors view within (second result) (next result)) :
    Mirrors view within (first >>= second)
      (fun state => plain state >>= fun (result, behind) => next result behind) := by
  intro state placed
  have ends := mirrors state placed
  show Agrees view within _ (plain (view state) >>= _)
  rw [StateT.run_bind]
  cases result : plain (view state) with
  | error error =>
    rw [result] at ends
    rw [show first.run state = _ from ends]
    rfl
  | ok pair =>
    obtain ⟨value, behind⟩ := pair
    rw [result] at ends
    obtain ⟨last, runs, rfl, placed⟩ := ends
    rw [runs, pure_bind]
    exact goesOn value last placed

/-- A step that mirrors another one, told in another way. -/
theorem Mirrors.congr {guarded : StateT σ (Guarded ε) α} {plain other : τ → Except ε (α × τ)}
    (mirrors : Mirrors view within guarded plain) (same : ∀ seen, plain seen = other seen) :
    Mirrors view within guarded other := by
  rw [← funext same]
  exact mirrors

theorem Mirrors.ite {guarded other : StateT σ (Guarded ε) α}
    {plain another : τ → Except ε (α × τ)} (c : Prop) [Decidable c]
    (holds : c → Mirrors view within guarded plain)
    (fails : ¬ c → Mirrors view within other another) :
    Mirrors view within (if c then guarded else other)
      (fun seen => if c then plain seen else another seen) := by
  by_cases known : c
  · simp only [if_pos known]
    exact holds known
  · simp only [if_neg known]
    exact fails known

/-- The guarded step has the result of the plain one; what it leaves of the state is not told. -/
def Yields (view : σ → τ) (within : σ → Prop) (guarded : StateT σ (Guarded ε) α)
    (plain : τ → Except ε α) : Prop :=
  ∀ state, within state → Prod.fst <$> guarded.run state = of (plain (view state))

theorem Mirrors.yields {guarded : StateT σ (Guarded ε) α} {plain : τ → Except ε (α × τ)}
    (mirrors : Mirrors view within guarded plain) :
    Yields view within guarded fun seen => Prod.fst <$> plain seen := by
  intro state placed
  have ends := mirrors state placed
  show _ = of (Prod.fst <$> plain (view state))
  cases result : plain (view state) with
  | error error =>
    rw [result] at ends
    rw [show guarded.run state = _ from ends]
    rfl
  | ok pair =>
    rw [result] at ends
    obtain ⟨last, runs, -⟩ := ends
    rw [runs]
    rfl

/-- What follows a step need only be known for what the plain one can result in. -/
theorem Mirrors.bind_yields_of {first : StateT σ (Guarded ε) α} {plain : τ → Except ε (α × τ)}
    (mirrors : Mirrors view within first plain) {second : α → StateT σ (Guarded ε) β}
    {next : α → τ → Except ε β}
    (goesOn : ∀ seen result behind, plain seen = .ok (result, behind) →
      Yields view within (second result) (next result)) :
    Yields view within (first >>= second)
      (fun seen => plain seen >>= fun (result, behind) => next result behind) := by
  intro state placed
  have ends := mirrors state placed
  show _ = of (plain (view state) >>= _)
  rw [StateT.run_bind]
  cases result : plain (view state) with
  | error error =>
    rw [result] at ends
    rw [show first.run state = _ from ends]
    rfl
  | ok pair =>
    rw [result] at ends
    obtain ⟨value, behind⟩ := pair
    obtain ⟨last, runs, rfl, placed⟩ := ends
    rw [runs, pure_bind]
    exact goesOn _ value _ result last placed

theorem Mirrors.bind_yields {first : StateT σ (Guarded ε) α} {plain : τ → Except ε (α × τ)}
    (mirrors : Mirrors view within first plain) {second : α → StateT σ (Guarded ε) β}
    {next : α → τ → Except ε β}
    (goesOn : ∀ result, Yields view within (second result) (next result)) :
    Yields view within (first >>= second)
      (fun seen => plain seen >>= fun (result, behind) => next result behind) :=
  mirrors.bind_yields_of fun _ result _ _ => goesOn result

theorem Yields.congr {guarded : StateT σ (Guarded ε) α} {plain other : τ → Except ε α}
    (yields : Yields view within guarded plain) (same : ∀ seen, plain seen = other seen) :
    Yields view within guarded other := by
  rw [← funext same]
  exact yields

theorem Yields.map {guarded : StateT σ (Guarded ε) α} {plain : τ → Except ε α}
    (yields : Yields view within guarded plain) (f : α → β) :
    Yields view within (f <$> guarded) fun seen => f <$> plain seen := by
  intro state placed
  rw [← of_map, ← yields state placed, StateT.run_map, Functor.map_map, Functor.map_map]

theorem Yields.ite {guarded other : StateT σ (Guarded ε) α} {plain another : τ → Except ε α}
    (c : Prop) [Decidable c] (holds : c → Yields view within guarded plain)
    (fails : ¬ c → Yields view within other another) :
    Yields view within (if c then guarded else other)
      (fun seen => if c then plain seen else another seen) := by
  by_cases known : c
  · simp only [if_pos known]
    exact holds known
  · simp only [if_neg known]
    exact fails known

end Guarded

end BACnet
