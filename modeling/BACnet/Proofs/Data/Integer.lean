import BACnet.Data.Integer
import BACnet.Proofs.Octets.Reading

/-!
# Reading integer contents

The octets that an encoder drops in front of a number add nothing to it
(`ofBigEndian_dropLeadingZeros`), and those that it keeps are no more than the number needs
(`length_dropLeadingZeros_le`). So the content of an enumerated value has one to four octets, and
the value is read back from them. In front of a signed number, what is dropped repeats the sign, and
the sign that is kept puts it back (`fill_dropSignExtension`).
-/

namespace BACnet

/-! ## Unsigned integers -/

theorem Octets.ofBigEndian_cons (first : UInt8) (rest : Octets) :
    ofBigEndian (first :: rest) = first.toNat <<< (8 * rest.length) + ofBigEndian rest := by
  rw [← List.reverse_reverse rest]
  induction rest.reverse with
  | nil => simp [ofBigEndian]
  | cons last front ih =>
    have grown : first.toNat <<< (8 * (front.reverse.length + 1)) =
        first.toNat <<< (8 * front.reverse.length) * 256 := by
      rw [Nat.mul_succ, Nat.shiftLeft_add, Nat.shiftLeft_eq _ 8]
    rw [List.reverse_cons, ← List.cons_append, ofBigEndian_append_singleton,
      ofBigEndian_append_singleton, ih, List.length_append, List.length_singleton, grown,
      Nat.add_mul, Nat.add_assoc]

theorem ofBigEndian_dropLeadingZeros (octets : Octets) :
    Octets.ofBigEndian (dropLeadingZeros octets) = Octets.ofBigEndian octets := by
  fun_induction dropLeadingZeros octets with
  | case1 => rfl
  | case2 last => rfl
  | case3 second rest ih =>
    rw [ih, Octets.ofBigEndian_cons 0]
    simp
  | case4 first second rest nonzero => rfl

theorem length_dropLeadingZeros_pos {octets : Octets} (nonempty : octets ≠ []) :
    0 < (dropLeadingZeros octets).length := by
  fun_induction dropLeadingZeros octets with
  | case1 => exact absurd rfl nonempty
  | case2 last => exact Nat.one_pos
  | case3 second rest ih => exact ih (List.cons_ne_nil _ _)
  | case4 first second rest nonzero => exact Nat.succ_pos _

/-- A number that fits `width` octets keeps no more than these. -/
theorem length_dropLeadingZeros_le {width : Nat} (room : 0 < width) {octets : Octets}
    (fits : Octets.ofBigEndian octets < 1 <<< (8 * width)) :
    (dropLeadingZeros octets).length ≤ width := by
  fun_induction dropLeadingZeros octets with
  | case1 => exact Nat.zero_le _
  | case2 last => exact room
  | case3 second rest ih =>
    rw [Octets.ofBigEndian_cons 0] at fits
    exact ih (Nat.lt_of_le_of_lt (Nat.le_add_left _ _) fits)
  | case4 first second rest nonzero =>
    -- The octet in front weighs at least as much as its place.
    have weight :
        1 <<< (8 * (second :: rest).length) ≤ Octets.ofBigEndian (first :: second :: rest) := by
      have positive : 1 ≤ first.toNat := Nat.pos_of_ne_zero fun zero =>
        nonzero (UInt8.toNat_inj.mp zero)
      rw [Octets.ofBigEndian_cons first, Nat.shiftLeft_eq, Nat.shiftLeft_eq]
      exact Nat.le_add_right_of_le (Nat.mul_le_mul_right _ positive)
    have places := Nat.lt_of_le_of_lt weight fits
    rw [Nat.one_shiftLeft, Nat.one_shiftLeft, Nat.pow_lt_pow_iff_right (by decide)] at places
    exact Nat.lt_of_mul_lt_mul_left places

theorem ofBigEndian_unsignedContent (value : UInt64) :
    Octets.ofBigEndian (unsignedContent value) = value.toNat := by
  rw [unsignedContent, ofBigEndian_dropLeadingZeros, Octets.ofWord64,
    Octets.ofBigEndian_bigEndian]
  exact Nat.mod_eq_of_lt value.toNat_lt

theorem length_unsignedContent_pos (value : UInt64) : 0 < (unsignedContent value).length :=
  length_dropLeadingZeros_pos (List.ne_nil_of_length_pos (by
    rw [Octets.ofWord64, Octets.length_bigEndian]
    decide))

theorem length_unsignedContent_le {width : Nat} (room : 0 < width) {value : UInt64}
    (fits : value.toNat < 1 <<< (8 * width)) : (unsignedContent value).length ≤ width := by
  refine length_dropLeadingZeros_le room ?_
  rw [← ofBigEndian_dropLeadingZeros]
  exact Nat.lt_of_le_of_lt (Nat.le_of_eq (ofBigEndian_unsignedContent value)) fits

theorem length_unsignedContent_le_eight (value : UInt64) : (unsignedContent value).length ≤ 8 :=
  length_unsignedContent_le (by decide) value.toNat_lt

theorem length_enumeratedContent_le (value : UInt32) : (enumeratedContent value).length ≤ 4 :=
  length_unsignedContent_le (by decide) (by
    rw [UInt32.toNat_toUInt64]
    exact value.toNat_lt)

/-- An unsigned integer is read back from its content. -/
theorem decodeUnsignedContent_unsignedContent (value : UInt64) :
    decodeUnsignedContent (unsignedContent value) = .ok value := by
  have nonempty := length_unsignedContent_pos value
  have short := length_unsignedContent_le_eight value
  rw [decodeUnsignedContent, if_neg (not_or.mpr ⟨Nat.ne_of_gt nonempty, Nat.not_lt_of_le short⟩),
    ofBigEndian_unsignedContent, UInt64.ofNat_toNat]

/-- An enumerated value is read back from its content. -/
theorem decodeEnumeratedContent_enumeratedContent (value : UInt32) :
    decodeEnumeratedContent (enumeratedContent value) = .ok value := by
  have nonempty : 0 < (enumeratedContent value).length := length_unsignedContent_pos _
  have short := length_enumeratedContent_le value
  rw [decodeEnumeratedContent, if_neg (not_or.mpr ⟨Nat.ne_of_gt nonempty, Nat.not_lt_of_le short⟩),
    enumeratedContent, ofBigEndian_unsignedContent, UInt32.toNat_toUInt64, UInt32.ofNat_toNat]

/-! ## Signed integers -/

/-- An octet that only repeats the sign of the next one is the one that fills the content. -/
theorem signFill_of_isSignExtension {first second : UInt8} (rest : Octets)
    (repeats : isSignExtension first second = true) :
    signFill (second :: rest) = first ∧ signFill (first :: second :: rest) = first := by
  obtain both | both := Bool.or_eq_true_iff.mp repeats
  · obtain ⟨zero, clear⟩ := Bool.and_eq_true_iff.mp both
    rw [Bool.not_eq_true'] at clear
    obtain rfl := eq_of_beq zero
    exact ⟨by rw [signFill, clear]; rfl, rfl⟩
  · obtain ⟨ones, set⟩ := Bool.and_eq_true_iff.mp both
    obtain rfl := eq_of_beq ones
    exact ⟨by rw [signFill, set]; rfl, rfl⟩

theorem length_dropSignExtension_le (octets : Octets) :
    (dropSignExtension octets).length ≤ octets.length := by
  fun_induction dropSignExtension octets with
  | case1 => exact Nat.le_refl _
  | case2 last => exact Nat.le_refl _
  | case3 first second rest repeats ih => exact Nat.le_succ_of_le ih
  | case4 first second rest needed => exact Nat.le_refl _

theorem length_dropSignExtension_pos {octets : Octets} (nonempty : octets ≠ []) :
    0 < (dropSignExtension octets).length := by
  fun_induction dropSignExtension octets with
  | case1 => exact absurd rfl nonempty
  | case2 last => exact Nat.one_pos
  | case3 first second rest repeats ih => exact ih (List.cons_ne_nil _ _)
  | case4 first second rest needed => exact Nat.succ_pos _

theorem signFill_dropSignExtension (octets : Octets) :
    signFill (dropSignExtension octets) = signFill octets := by
  fun_induction dropSignExtension octets with
  | case1 => rfl
  | case2 last => rfl
  | case3 first second rest repeats ih =>
    obtain ⟨behind, whole⟩ := signFill_of_isSignExtension rest repeats
    rw [ih, behind, whole]
  | case4 first second rest needed => rfl

/-- The octets that were dropped are put back by filling with the sign. -/
theorem fill_dropSignExtension (octets : Octets) :
    List.replicate (octets.length - (dropSignExtension octets).length) (signFill octets) ++
      dropSignExtension octets = octets := by
  fun_induction dropSignExtension octets with
  | case1 => rfl
  | case2 last => simp
  | case3 first second rest repeats ih =>
    obtain ⟨behind, whole⟩ := signFill_of_isSignExtension rest repeats
    have shorter := length_dropSignExtension_le (second :: rest)
    rw [behind] at ih
    rw [whole, List.length_cons, Nat.succ_sub shorter, List.replicate_succ, List.cons_append, ih]
  | case4 first second rest needed => simp

/-- A signed integer is read back from its content. -/
theorem decodeSignedContent_signedContent (value : Int64) :
    decodeSignedContent (signedContent value) = .ok value := by
  have eight : (Octets.ofWord64 value.toUInt64).length = 8 := Octets.length_bigEndian _ _
  have nonempty : 0 < (signedContent value).length :=
    length_dropSignExtension_pos (List.ne_nil_of_length_pos (by rw [eight]; decide))
  have short : (signedContent value).length ≤ 8 := by
    rw [← eight]
    exact length_dropSignExtension_le _
  have extended := fill_dropSignExtension (Octets.ofWord64 value.toUInt64)
  rw [eight, ← signFill_dropSignExtension] at extended
  rw [decodeSignedContent, if_neg (not_or.mpr ⟨Nat.ne_of_gt nonempty, Nat.not_lt_of_le short⟩)]
  dsimp only
  rw [signedContent, extended, Octets.ofBigEndian_ofWord64, UInt64.ofNat_toNat,
    Int64.toInt64_toUInt64]

end BACnet
