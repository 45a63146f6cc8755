import Mathlib.Algebra.Group.Nat.Defs
import BACnet.Data.BitString

/-!
# Reading bit strings

A bit string that has been made of bits or of packed octets (`BitString.Built`) has zeros in its
unused bits. To clear these once more changes nothing, so the string is read back from its content.
-/

namespace BACnet

namespace BitString

/-! ## Unused bits -/

/-- An octet whose unused bits are zero stays as it is. -/
theorem clearLow_of_dvd {unused octet : UInt8} (clear : 2 ^ unused.toNat ∣ octet.toNat) :
    clearLow unused octet = octet := by
  rw [clearLow, Nat.shiftRight_eq_div_pow, Nat.shiftLeft_eq, Nat.div_mul_cancel clear,
    UInt8.ofNat_toNat]

theorem clearLow_clearLow (unused octet : UInt8) :
    clearLow unused (clearLow unused octet) = clearLow unused octet := by
  apply clearLow_of_dvd
  have fits : octet.toNat / 2 ^ unused.toNat * 2 ^ unused.toNat < 256 :=
    Nat.lt_of_le_of_lt (Nat.div_mul_le_self _ _) octet.toNat_lt
  rw [clearLow, UInt8.toNat_ofNat', Nat.shiftRight_eq_div_pow, Nat.shiftLeft_eq,
    Nat.mod_eq_of_lt fits]
  exact Nat.dvd_mul_left _ _

theorem length_clearUnused (unused : UInt8) (octets : Octets) :
    (clearUnused unused octets).length = octets.length := by
  fun_induction clearUnused unused octets with
  | case1 => rfl
  | case2 last => rfl
  | case3 first rest several ih => rw [List.length_cons, List.length_cons, ih]

theorem clearUnused_clearUnused (unused : UInt8) (octets : Octets) :
    clearUnused unused (clearUnused unused octets) = clearUnused unused octets := by
  fun_induction clearUnused unused octets with
  | case1 => rfl
  | case2 last => rw [clearUnused, clearLow_clearLow]
  | case3 first rest several ih =>
    have more : clearUnused unused rest ≠ [] := by
      intro none
      apply several
      rw [← List.length_eq_zero_iff, ← length_clearUnused unused rest, none, List.length_nil]
    rw [clearUnused, ih]
    exact more

/-! ## Packed bits -/

theorem foldl_replicate_false (count value : Nat) :
    (List.replicate count false).foldl (fun value bit => value * 2 + bit.toNat) value =
      value * 2 ^ count := by
  induction count generalizing value with
  | zero => rw [List.replicate_zero, List.foldl_nil, Nat.pow_zero, Nat.mul_one]
  | succ count ih =>
    rw [List.replicate_succ, List.foldl_cons, ih, Bool.toNat_false, Nat.add_zero, Nat.mul_assoc,
      Nat.pow_succ']

theorem foldl_bits_lt (bits : List Bool) (value : Nat) :
    bits.foldl (fun value bit => value * 2 + bit.toNat) value < (value + 1) * 2 ^ bits.length := by
  induction bits generalizing value with
  | nil => simp
  | cons bit rest ih =>
    have small := bit.toNat_lt
    refine Nat.lt_of_lt_of_le (ih _) ?_
    rw [List.length_cons, Nat.pow_succ', ← Nat.mul_assoc]
    refine Nat.mul_le_mul_right _ ?_
    show value * 2 + bit.toNat + 1 ≤ (value + 1) * 2
    omega

/-- The bits behind the last of fewer than eight are zero. -/
theorem dvd_packOctet {bits : List Bool} (short : bits.length ≤ 8) :
    2 ^ (8 - bits.length) ∣ (packOctet bits).toNat := by
  have whole : bits.take 8 = bits := List.take_of_length_le short
  have fits := foldl_bits_lt bits 0
  have widths : 2 ^ bits.length * 2 ^ (8 - bits.length) = 256 := by
    rw [← Nat.pow_add, Nat.add_sub_cancel' short]
  rw [packOctet, whole, List.foldl_append, foldl_replicate_false, UInt8.toNat_ofNat',
    Nat.mod_eq_of_lt]
  · exact Nat.dvd_mul_left _ _
  · show _ < 256
    rw [← widths]
    apply Nat.mul_lt_mul_of_pos_right _ (Nat.two_pow_pos _)
    omega

theorem clearUnused_packOctets {bits : List Bool} {unused : UInt8}
    (count : unused.toNat = (8 - bits.length % 8) % 8) :
    clearUnused unused (packOctets bits) = packOctets bits := by
  fun_induction packOctets bits with
  | case1 => rfl
  | case2 bit rest ih =>
    by_cases last : (bit :: rest).length ≤ 8
    · have none : (bit :: rest).drop 8 = [] := List.drop_of_length_le last
      have some : 0 < (bit :: rest).length := Nat.succ_pos _
      rw [none, packOctets, clearUnused, clearLow_of_dvd]
      refine Nat.dvd_trans (Nat.pow_dvd_pow 2 ?_) (dvd_packOctet last)
      omega
    · have behind : ((bit :: rest).drop 8).length = (bit :: rest).length - 8 := List.length_drop
      have more : packOctets ((bit :: rest).drop 8) ≠ [] := by
        cases tail : (bit :: rest).drop 8 with
        | nil =>
          rw [tail] at behind
          rw [List.length_nil] at behind
          omega
        | cons next others =>
          rw [packOctets]
          nofun
      rw [clearUnused, ih (by omega)]
      exact more

/-! ## Bit strings that are built -/

/-- The bit string has been made of bits, or of packed octets. -/
def Built (string : BitString) : Prop :=
  (∃ bits, string = ofBits bits) ∨ ∃ unused octets, ofOctets unused octets = .ok string

theorem length_packOctets_pos {bits : List Bool} (some : bits ≠ []) :
    0 < (packOctets bits).length := by
  cases bits with
  | nil => exact absurd rfl some
  | cons bit rest =>
    rw [packOctets]
    exact Nat.succ_pos _

theorem ofOctets_ofBits (bits : List Bool) :
    ofOctets (ofBits bits).unused (ofBits bits).octets = .ok (ofBits bits) := by
  have count : (ofBits bits).unused.toNat = (8 - bits.length % 8) % 8 := by
    rw [ofBits, UInt8.toNat_ofNat']
    omega
  have allowed : ¬ (7 < (ofBits bits).unused.toNat ∨
      (ofBits bits).octets.length = 0 ∧ (ofBits bits).unused ≠ 0) := by
    rintro (many | ⟨none, unused⟩)
    · omega
    · by_cases empty : bits = []
      · subst empty
        exact unused rfl
      · exact Nat.ne_of_gt (length_packOctets_pos empty) none
  rw [ofOctets, if_neg allowed]
  show Except.ok (BitString.mk _ (clearUnused _ (packOctets bits))) = _
  rw [clearUnused_packOctets count]
  rfl

theorem ofOctets_of_ofOctets {unused : UInt8} {octets : Octets} {string : BitString}
    (made : ofOctets unused octets = .ok string) :
    ofOctets string.unused string.octets = .ok string := by
  unfold ofOctets at made
  split at made
  · cases made
  · next allowed =>
    cases made
    rw [ofOctets]
    dsimp only
    rw [length_clearUnused, if_neg allowed, clearUnused_clearUnused]

/-- A bit string is read back from its content. -/
theorem Built.decodeContent {string : BitString} (built : string.Built) :
    BitString.decodeContent string.content = .ok string := by
  show ofOctets string.unused string.octets = .ok string
  obtain ⟨bits, rfl⟩ | ⟨unused, octets, made⟩ := built
  · exact ofOctets_ofBits bits
  · exact ofOctets_of_ofOctets made

end BitString

end BACnet
