import BACnet.Link.Crc

/-!
# What the checks detect

A step of the shift register can be undone: what falls out at the low end is put back at the high
end by the polynomial, whose leading coefficient is 1. So different registers stay different however
many octets follow (`Crc.foldl_step_injective`), and different octets lead to different registers.
Octets that differ in one place (`OneOff`) have different checks, whatever their number.
-/

namespace BACnet

/-- Two lists that differ in exactly one place. -/
inductive OneOff {α : Type} : List α → List α → Prop where
  | here {first other : α} (differ : first ≠ other) (rest : List α) :
    OneOff (first :: rest) (other :: rest)
  | later (first : α) {rest others : List α} (oneOff : OneOff rest others) :
    OneOff (first :: rest) (first :: others)

namespace OneOff

variable {α : Type} {list other : List α}

theorem ne (oneOff : OneOff list other) : list ≠ other := by
  induction oneOff with
  | here differ _ => exact fun same => differ (List.cons.inj same).1
  | later _ _ ih => exact fun same => ih (List.cons.inj same).2

/-- Replacing one member by another. -/
theorem replace {first another : α} (differ : first ≠ another) (front back : List α) :
    OneOff (front ++ first :: back) (front ++ another :: back) := by
  induction front with
  | nil => exact .here differ back
  | cons member front ih => exact .later member ih

/-- Where two lists are put together of parts, the one difference is in the fronts or behind. -/
theorem append {front front' back back' : List α} (lengths : front.length = front'.length)
    (oneOff : OneOff (front ++ back) (front' ++ back')) :
    OneOff front front' ∧ back = back' ∨ front = front' ∧ OneOff back back' := by
  induction front generalizing front' with
  | nil =>
    obtain rfl := List.eq_nil_of_length_eq_zero lengths.symm
    exact .inr ⟨rfl, oneOff⟩
  | cons member front ih =>
    cases front' with
    | nil => cases lengths
    | cons member' front' =>
      have shorter : front.length = front'.length := Nat.succ.inj lengths
      generalize whole : member' :: front' ++ back' = other at oneOff
      cases oneOff with
      | here differ =>
        obtain ⟨rfl, rest⟩ := List.cons.inj whole
        obtain ⟨rfl, rfl⟩ := List.append_inj rest shorter.symm
        exact .inl ⟨.here differ front', rfl⟩
      | later _ inner =>
        obtain ⟨rfl, rfl⟩ := List.cons.inj whole
        obtain ⟨fronts, rfl⟩ | ⟨rfl, backs⟩ := ih shorter inner
        · exact .inl ⟨.later member' fronts, rfl⟩
        · exact .inr ⟨rfl, backs⟩

/-- Lists that carry a check behind them differ in more than one place, if the check tells apart
what differs in one. -/
theorem not_of_check (check : List α → List α)
    (detects : ∀ {list other : List α}, OneOff list other → check list ≠ check other)
    (lengths : list.length = other.length) :
    ¬ OneOff (list ++ check list) (other ++ check other) := by
  intro oneOff
  obtain ⟨inside, checks⟩ | ⟨rfl, checks⟩ := oneOff.append lengths
  · exact detects inside checks
  · exact checks.ne rfl

end OneOff

namespace Crc

variable {width : Nat} {crc : Crc width}

/-- The bit that falls out of the register turns up at the other end. -/
theorem msb_shift (leads : crc.polynomial.msb = true) (register : BitVec width) :
    (crc.shift register).msb = register.getLsbD 0 := by
  have width_pos : width ≠ 0 := by
    rintro rfl
    simp [BitVec.msb, BitVec.getMsbD] at leads
  unfold shift
  split
  · next out => simp [BitVec.msb_ushiftRight, leads, out]
  · next out => simp [BitVec.msb_ushiftRight, out]

theorem shift_injective (leads : crc.polynomial.msb = true) : Function.Injective crc.shift := by
  intro register other same
  have low : register.getLsbD 0 = other.getLsbD 0 := by
    rw [← msb_shift leads, ← msb_shift leads, same]
  have high : register >>> 1 = other >>> 1 := by
    unfold shift at same
    rw [low] at same
    split at same
    · exact (BitVec.xor_left_inj _).mp same
    · exact same
  apply BitVec.eq_of_getLsbD_eq
  intro index _
  cases index with
  | zero => exact low
  | succ index =>
    have bit := congrArg (·.getLsbD index) high
    simpa [Nat.add_comm] using bit

theorem shifts_injective (leads : crc.polynomial.msb = true) (count : Nat) :
    Function.Injective (crc.shifts count) := by
  induction count with
  | zero => exact fun _ _ same => same
  | succ count ih => exact fun _ _ same => shift_injective leads (ih same)

/-- Different registers stay different under the same octet. -/
theorem step_injective (leads : crc.polynomial.msb = true) (octet : UInt8) :
    Function.Injective fun register => crc.step register octet :=
  fun _ _ same => (BitVec.xor_left_inj _).mp (shifts_injective leads 8 same)

/-- Different octets lead from one register to different ones. -/
theorem step_ne (leads : crc.polynomial.msb = true) (wide : 8 ≤ width) (register : BitVec width)
    {octet other : UInt8} (differ : octet ≠ other) :
    crc.step register octet ≠ crc.step register other := by
  intro same
  have widened : octet.toBitVec.setWidth width = other.toBitVec.setWidth width :=
    (BitVec.xor_right_inj _).mp (shifts_injective leads 8 same)
  apply differ
  apply UInt8.toBitVec_inj.mp
  have narrowed := congrArg (·.setWidth 8) widened
  simpa [BitVec.setWidth_setWidth_of_le _ wide] using narrowed

theorem foldl_step_injective (leads : crc.polynomial.msb = true) (octets : Octets) :
    Function.Injective fun register => octets.foldl crc.step register := by
  induction octets with
  | nil => exact fun _ _ same => same
  | cons octet octets ih => exact fun _ _ same => step_injective leads octet (ih same)

theorem foldl_step_ne (leads : crc.polynomial.msb = true) (wide : 8 ≤ width)
    {octets others : Octets} (oneOff : OneOff octets others) (register : BitVec width) :
    octets.foldl crc.step register ≠ others.foldl crc.step register := by
  induction oneOff generalizing register with
  | here differ rest =>
    exact fun same => step_ne leads wide register differ (foldl_step_injective leads rest same)
  | later first _ ih => exact ih (crc.step register first)

/-- A check of at least eight bits whose polynomial has the leading coefficient 1 tells apart octets
that differ in one place. -/
theorem checksum_ne (leads : crc.polynomial.msb = true) (wide : 8 ≤ width)
    {octets others : Octets} (oneOff : OneOff octets others) :
    crc.checksum octets ≠ crc.checksum others := by
  intro same
  exact foldl_step_ne leads wide oneOff _ (BitVec.not_inj.mp same)

end Crc

/-! ## The two checks of MS/TP frames -/

theorem headerCrc_ne {octets others : Octets} (oneOff : OneOff octets others) :
    headerCrc octets ≠ headerCrc others :=
  fun same => Crc.checksum_ne rfl (Nat.le_refl 8) oneOff (UInt8.toBitVec_inj.mpr same)

theorem dataCrc_ne {octets others : Octets} (oneOff : OneOff octets others) :
    dataCrc octets ≠ dataCrc others :=
  fun same => Crc.checksum_ne rfl (by decide) oneOff (UInt16.toBitVec_inj.mpr same)

/-- The check values of the two algorithms, those of the digits from 1 to 9. -/
example : headerCrc [0x31, 0x32, 0x33, 0x34, 0x35, 0x36, 0x37, 0x38, 0x39] = 0x89 ∧
    dataCrc [0x31, 0x32, 0x33, 0x34, 0x35, 0x36, 0x37, 0x38, 0x39] = 0x906E := by decide +kernel

end BACnet
