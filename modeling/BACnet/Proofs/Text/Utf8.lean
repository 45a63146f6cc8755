import BACnet.Text.Utf8

/-!
# Reading UTF-8

Every text is read back from its octets (`Utf8.decode_encode`). A character takes as many octets as
its number needs; the first of them tells how many others there are, and which second octets may
follow it: those that its range leaves out belong to no character.
-/

namespace BACnet

namespace Utf8

/-- The number of a character is not that of a surrogate, and not beyond the last. -/
theorem toNat_cases (c : Char) : c.toNat < 0xD800 ∨ 0xDFFF < c.toNat ∧ c.toNat < 0x110000 := c.valid

/-! ## The octets of a character -/

theorem toNat_lead {base part : Nat} (fits : base + part < 256) :
    (UInt8.ofNat (base + part)).toNat = base + part := by
  rw [UInt8.toNat_ofNat']
  exact Nat.mod_eq_of_lt fits

theorem toNat_continuation (value : Nat) : (continuation value).toNat = 0x80 + value % 64 :=
  toNat_lead (by omega)

theorem isContinuation_continuation (value : Nat) : isContinuation (continuation value) = true := by
  rw [isContinuation, toNat_continuation, Bool.and_eq_true, decide_eq_true_iff,
    decide_eq_true_iff]
  omega

/-- An octet may be the second of a character if it continues one, unless the first octet narrows
its range. -/
theorem mayFollow_of {first second : UInt8}
    (low : 0x80 ≤ second.toNat ∧ (first.toNat = 0xE0 → 0xA0 ≤ second.toNat) ∧
      (first.toNat = 0xF0 → 0x90 ≤ second.toNat))
    (high : second.toNat < 0xC0 ∧ (first.toNat = 0xED → second.toNat < 0xA0) ∧
      (first.toNat = 0xF4 → second.toNat < 0x90)) : mayFollow first second = true := by
  have named (value : UInt8) (same : first = value) : first.toNat = value.toNat := by rw [same]
  unfold mayFollow
  rw [Bool.and_eq_true, decide_eq_true_iff, decide_eq_true_iff]
  constructor
  · split
    · next same => exact low.2.1 (named _ same)
    · split
      · next same => exact low.2.2 (named _ same)
      · exact low.1
  · split
    · next same => exact high.2.1 (named _ same)
    · split
      · next same => exact high.2.2 (named _ same)
      · exact high.1

/-! ## Reading a character -/

/-- The character is read from these octets, whatever follows them. -/
def Spells (first : UInt8) (more : Octets) (c : Char) : Prop :=
  ∀ index rest, decodeChar index first (more ++ rest) = .ok (c, more.length)

/-- A character is read if its first octet tells how many others there are, these belong to it, and
all of them spell its number. -/
theorem spells_of {first : UInt8} {more : Octets} {c : Char}
    (width : width? first = some (more.length + 1))
    (proper : ∀ index rest, checkTail first index more.length 1 (more ++ rest) = .ok ())
    (spelled : codePoint (first :: more) = c.toNat) : Spells first more c := by
  intro index rest
  rw [decodeChar, width]
  dsimp only
  rw [Nat.add_sub_cancel, proper, List.take_left, spelled, Char.ofNat_toNat]
  rfl

variable {c : Char}

theorem spells_one (ascii : c.toNat < 0x80) : Spells (UInt8.ofNat c.toNat) [] c := by
  have first : (UInt8.ofNat c.toNat).toNat = c.toNat := by
    rw [UInt8.toNat_ofNat']
    omega
  refine spells_of ?_ (fun _ _ => rfl) first
  rw [width?, first]
  exact if_pos ascii

theorem spells_two (large : 0x80 ≤ c.toNat) (small : c.toNat < 0x800) :
    Spells (UInt8.ofNat (0xC0 + c.toNat / 64)) [continuation c.toNat] c := by
  have first : (UInt8.ofNat (0xC0 + c.toNat / 64)).toNat = 0xC0 + c.toNat / 64 :=
    toNat_lead (by omega)
  have second : mayFollow (UInt8.ofNat (0xC0 + c.toNat / 64)) (continuation c.toNat) := by
    apply mayFollow_of <;> rw [first, toNat_continuation] <;> omega
  refine spells_of ?_ (fun index rest => if_pos second) ?_
  · rw [width?, first]
    simp only [List.length_cons, List.length_nil]
    rw [if_neg (by omega), if_neg (by omega), if_pos (by omega)]
  · rw [codePoint, first, toNat_continuation]
    omega

theorem spells_three (large : 0x800 ≤ c.toNat) (small : c.toNat < 0x10000) :
    Spells (UInt8.ofNat (0xE0 + c.toNat / 4096))
      [continuation (c.toNat / 64), continuation c.toNat] c := by
  have valid := toNat_cases c
  have first : (UInt8.ofNat (0xE0 + c.toNat / 4096)).toNat = 0xE0 + c.toNat / 4096 :=
    toNat_lead (by omega)
  have second : mayFollow (UInt8.ofNat (0xE0 + c.toNat / 4096)) (continuation (c.toNat / 64)) := by
    apply mayFollow_of <;> rw [first, toNat_continuation] <;> omega
  refine spells_of ?_ (fun index rest =>
    (if_pos second).trans (if_pos (isContinuation_continuation _))) ?_
  · rw [width?, first]
    simp only [List.length_cons, List.length_nil]
    rw [if_neg (by omega), if_neg (by omega), if_neg (by omega), if_pos (by omega)]
  · rw [codePoint, first, toNat_continuation, toNat_continuation]
    omega

theorem spells_four (large : 0x10000 ≤ c.toNat) :
    Spells (UInt8.ofNat (0xF0 + c.toNat / 262144))
      [continuation (c.toNat / 4096), continuation (c.toNat / 64), continuation c.toNat] c := by
  have valid := toNat_cases c
  have first : (UInt8.ofNat (0xF0 + c.toNat / 262144)).toNat = 0xF0 + c.toNat / 262144 :=
    toNat_lead (by omega)
  have second : mayFollow (UInt8.ofNat (0xF0 + c.toNat / 262144))
      (continuation (c.toNat / 4096)) := by
    apply mayFollow_of <;> rw [first, toNat_continuation] <;> omega
  refine spells_of ?_ (fun index rest => (if_pos second).trans <|
    (if_pos (isContinuation_continuation _)).trans (if_pos (isContinuation_continuation _))) ?_
  · rw [width?, first]
    simp only [List.length_cons, List.length_nil]
    rw [if_neg (by omega), if_neg (by omega), if_neg (by omega), if_neg (by omega),
      if_pos (by omega)]
  · rw [codePoint, first, toNat_continuation, toNat_continuation, toNat_continuation]
    omega

theorem exists_encodeChar (c : Char) :
    ∃ first more, encodeChar c = first :: more ∧ Spells first more c := by
  unfold encodeChar
  dsimp only
  split
  · next ascii => exact ⟨_, _, rfl, spells_one ascii⟩
  · next notOne =>
    split
    · next two => exact ⟨_, _, rfl, spells_two (Nat.le_of_not_lt notOne) two⟩
    · next notTwo =>
      split
      · next three => exact ⟨_, _, rfl, spells_three (Nat.le_of_not_lt notTwo) three⟩
      · next notThree => exact ⟨_, _, rfl, spells_four (Nat.le_of_not_lt notThree)⟩

/-! ## Reading a text -/

theorem decodeFrom_encode (chars : List Char) (index : Nat) :
    decodeFrom index (chars.flatMap encodeChar) = .ok chars := by
  induction chars generalizing index with
  | nil => rw [List.flatMap_nil, decodeFrom]
  | cons c others ih =>
    obtain ⟨first, more, octets, spells⟩ := exists_encodeChar c
    rw [List.flatMap_cons, octets, List.cons_append, decodeFrom, spells]
    simp only [bind, Except.bind]
    rw [List.drop_left, ih]

/-- Every text is read back from its octets. -/
theorem decode_encode (text : String) : decode (encode text) = .ok text := by
  rw [decode, encode, decodeFrom_encode]
  exact congrArg Except.ok String.ofList_toList

end Utf8

end BACnet
