import BACnet.Octets

/-!
# Reading what has been written

What all message formats need to read back their own octets: words of 16, 32 and 64 bits, octets
whose number is told ahead of them, steps that may fail, and the reasons for which they do
(`FailsOnly`).
-/

namespace BACnet

/-- If two steps succeed one after the other, then each of them does. -/
theorem exists_of_bind_eq_ok {ε α β : Type} {first : Except ε α} {second : α → Except ε β}
    {result : β} (both : first >>= second = .ok result) :
    ∃ between, first = .ok between ∧ second between = .ok result := by
  cases first with
  | error error => cases both
  | ok between => exact ⟨between, rfl, both⟩

/-- If two steps fail one after the other, then one of them does. -/
theorem eq_error_or_of_bind_eq_error {ε α β : Type} {first : Except ε α} {second : α → Except ε β}
    {error : ε} (both : first >>= second = .error error) :
    first = .error error ∨ ∃ between, first = .ok between ∧ second between = .error error := by
  cases first with
  | error other =>
    cases both
    exact .inl rfl
  | ok between => exact .inr ⟨between, rfl, both⟩

/-- If a result is mapped and succeeds, then it did before. -/
theorem exists_of_map_eq_ok {ε α β : Type} {result : Except ε α} {f : α → β} {value : β}
    (maps : f <$> result = .ok value) : ∃ inner, result = .ok inner ∧ f inner = value := by
  cases result with
  | error error => cases maps
  | ok inner => exact ⟨inner, rfl, Except.ok.inj maps⟩

/-- If a step succeeds for all members of a list, then it does for the list. -/
theorem mapM_eq_ok {ε α β : Type} {step : α → Except ε β} {result : α → β} {list : List α}
    (each : ∀ a ∈ list, step a = .ok (result a)) : list.mapM step = .ok (list.map result) := by
  induction list with
  | nil => rfl
  | cons first others ih =>
    obtain ⟨here, there⟩ := List.forall_mem_cons.mp each
    rw [List.mapM_cons, here, ih there]
    rfl

/-! ## Steps that fail for known reasons -/

/-- If the step fails, then with an error of the kind that is allowed. -/
def FailsOnly {ε α : Type} (allowed : ε → Prop) (result : Except ε α) : Prop :=
  ∀ error, result = .error error → allowed error

namespace FailsOnly

variable {ε α β : Type} {allowed : ε → Prop}

theorem ok (value : α) : FailsOnly allowed (.ok value) := nofun

theorem error {error : ε} (allows : allowed error) :
    FailsOnly allowed (.error error : Except ε α) := by
  intro other same
  cases same
  exact allows

theorem bind {first : Except ε α} {second : α → Except ε β} (here : FailsOnly allowed first)
    (there : ∀ between, first = .ok between → FailsOnly allowed (second between)) :
    FailsOnly allowed (first >>= second) := by
  intro error fails
  obtain refused | ⟨between, succeeds, refused⟩ := eq_error_or_of_bind_eq_error fails
  · exact here error refused
  · exact there between succeeds error refused

theorem map {result : Except ε α} (fails : FailsOnly allowed result) (f : α → β) :
    FailsOnly allowed (f <$> result) := by
  cases result with
  | error other => exact .error (fails other rfl)
  | ok value => exact .ok (f value)

theorem ite {condition : Prop} [Decidable condition] {first second : Except ε α}
    (here : FailsOnly allowed first) (there : FailsOnly allowed second) :
    FailsOnly allowed (if condition then first else second) := by
  split
  · exact here
  · exact there

end FailsOnly

namespace Octets

/-- The two octets of a word, which spell the word. -/
theorem exists_ofWord16 (word : UInt16) :
    ∃ high low, ofWord16 word = [high, low] ∧ word16 high low = word := by
  refine ⟨UInt8.ofNat (word.toNat / 256), UInt8.ofNat word.toNat, rfl, ?_⟩
  have spelled : ofBigEndian (ofWord16 word) = word.toNat := by
    rw [ofWord16, ofBigEndian_bigEndian]
    exact Nat.mod_eq_of_lt word.toNat_lt
  show UInt16.ofNat (ofBigEndian (ofWord16 word)) = word
  rw [spelled, UInt16.ofNat_toNat]

/-- The four octets of a word, which spell the word. -/
theorem exists_ofWord32 (word : UInt32) :
    ∃ a b c d, ofWord32 word = [a, b, c, d] ∧ word32 a b c d = word := by
  refine ⟨_, _, _, _, rfl, ?_⟩
  have spelled : ofBigEndian (ofWord32 word) = word.toNat := by
    rw [ofWord32, ofBigEndian_bigEndian]
    exact Nat.mod_eq_of_lt word.toNat_lt
  show UInt32.ofNat (ofBigEndian (ofWord32 word)) = word
  rw [spelled, UInt32.ofNat_toNat]

theorem ofBigEndian_ofWord64 (word : UInt64) : ofBigEndian (ofWord64 word) = word.toNat := by
  rw [ofWord64, ofBigEndian_bigEndian]
  exact Nat.mod_eq_of_lt word.toNat_lt

theorem ofBigEndian_lt (octets : Octets) : ofBigEndian octets < 1 <<< (8 * octets.length) := by
  rw [← bigEndian_ofBigEndian octets, ofBigEndian_bigEndian, bigEndian_ofBigEndian]
  refine Nat.mod_lt _ ?_
  rw [Nat.one_shiftLeft]
  exact Nat.two_pow_pos _

theorem toNat_word16 (high low : UInt8) : (word16 high low).toNat = ofBigEndian [high, low] := by
  rw [word16, UInt16.toNat_ofNat']
  exact Nat.mod_eq_of_lt (ofBigEndian_lt [high, low])

/-- A word spells the two octets that it was read from. -/
theorem ofWord16_word16 (high low : UInt8) : ofWord16 (word16 high low) = [high, low] := by
  rw [ofWord16, toNat_word16]
  exact bigEndian_ofBigEndian [high, low]

theorem ofWord16_injective : Function.Injective ofWord16 := by
  intro word other same
  obtain ⟨high, low, -, rfl⟩ := exists_ofWord16 word
  obtain ⟨high', low', -, rfl⟩ := exists_ofWord16 other
  rw [ofWord16_word16, ofWord16_word16] at same
  cases same
  rfl

theorem toNat_word32 (a b c d : UInt8) : (word32 a b c d).toNat = ofBigEndian [a, b, c, d] := by
  rw [word32, UInt32.toNat_ofNat']
  exact Nat.mod_eq_of_lt (ofBigEndian_lt [a, b, c, d])

theorem ofWord32_word32 (a b c d : UInt8) : ofWord32 (word32 a b c d) = [a, b, c, d] := by
  rw [ofWord32, toNat_word32]
  exact bigEndian_ofBigEndian [a, b, c, d]

theorem take?_append (octets rest : Octets) :
    take? octets.length (octets ++ rest) = some octets := by
  simp [take?]

theorem length_of_take? {count : Nat} {octets taken : Octets}
    (takes : take? count octets = some taken) : taken.length = count := by
  unfold take? at takes
  split at takes
  · next enough =>
    cases takes
    exact List.length_take_of_le enough
  · cases takes

/-- What is taken stands in front of what is left. -/
theorem append_of_take? {count : Nat} {octets taken : Octets}
    (takes : take? count octets = some taken) :
    taken.length = count ∧ octets = taken ++ octets.drop count := by
  refine ⟨length_of_take? takes, ?_⟩
  unfold take? at takes
  split at takes
  · cases takes
    rw [List.take_append_drop]
  · cases takes

theorem le_length_of_take? {count : Nat} {octets taken : Octets}
    (takes : take? count octets = some taken) : count ≤ octets.length := by
  unfold take? at takes
  split at takes
  · assumption
  · cases takes

theorem exists_of_length_two {octets : Octets} (two : octets.length = 2) :
    ∃ a b, octets = [a, b] :=
  match octets, two with
  | [a, b], _ => ⟨a, b, rfl⟩

theorem exists_of_length_four {octets : Octets} (four : octets.length = 4) :
    ∃ a b c d, octets = [a, b, c, d] :=
  match octets, four with
  | [a, b, c, d], _ => ⟨a, b, c, d, rfl⟩

theorem exists_of_length_five {octets : Octets} (five : octets.length = 5) :
    ∃ a b c d e, octets = [a, b, c, d, e] :=
  match octets, five with
  | [a, b, c, d, e], _ => ⟨a, b, c, d, e, rfl⟩

/-- A length of at most 255 fits an octet. -/
theorem toNat_ofNat_length {octets : Octets} (fits : octets.length ≤ 255) :
    (UInt8.ofNat octets.length).toNat = octets.length := by
  rw [UInt8.toNat_ofNat']
  omega

end Octets

end BACnet
