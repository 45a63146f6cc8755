import Mathlib.Algebra.Order.Ring.Int
import Mathlib.Tactic.Linarith
import Mathlib.Tactic.Ring
import BACnet.Proofs.Data.Integer

/-!
# The shortest contents of integers

Whatever content an integer has, the encoder writes what is left of it without the octets in front
that add nothing: zeros, or octets that repeat the sign. How many octets are left depends on the
size of the number only (`length_unsignedContent_le_iff`, `length_signedContent_le_iff`).
-/

namespace BACnet

/-! ## Octets in front that add nothing -/

theorem ofBigEndian_replicate_append (count : Nat) (octets : Octets) :
    Octets.ofBigEndian (List.replicate count 0 ++ octets) = Octets.ofBigEndian octets := by
  induction count with
  | zero => rfl
  | succ count ih =>
    rw [List.replicate_succ, List.cons_append, Octets.ofBigEndian_cons, ih]
    simp

theorem dropLeadingZeros_replicate_append (count : Nat) {octets : Octets} (nonempty : octets ≠ []) :
    dropLeadingZeros (List.replicate count 0 ++ octets) = dropLeadingZeros octets := by
  induction count with
  | zero => rfl
  | succ count ih =>
    rw [List.replicate_succ, List.cons_append, ← ih]
    cases behind : List.replicate count 0 ++ octets with
    | nil => exact absurd (List.append_eq_nil_iff.mp behind).2 nonempty
    | cons next rest => rw [dropLeadingZeros, if_pos rfl]

theorem length_dropLeadingZeros_le_length (octets : Octets) :
    (dropLeadingZeros octets).length ≤ octets.length := by
  fun_induction dropLeadingZeros octets with
  | case1 => exact Nat.le_refl _
  | case2 last => exact Nat.le_refl _
  | case3 second rest ih => exact Nat.le_succ_of_le ih
  | case4 first second rest nonzero => exact Nat.le_refl _

/-- The zeros that were dropped are put back. -/
theorem fill_dropLeadingZeros (octets : Octets) :
    List.replicate (octets.length - (dropLeadingZeros octets).length) 0 ++
      dropLeadingZeros octets = octets := by
  fun_induction dropLeadingZeros octets with
  | case1 => rfl
  | case2 last => simp
  | case3 second rest ih =>
    have shorter := length_dropLeadingZeros_le_length (second :: rest)
    rw [List.length_cons, Nat.succ_sub shorter, List.replicate_succ, List.cons_append, ih]
  | case4 first second rest nonzero => simp

/-- The octet that fills a content repeats its sign. -/
theorem isSignExtension_signFill (first : UInt8) (rest : Octets) :
    isSignExtension (signFill (first :: rest)) first = true := by
  unfold signFill
  cases sign : Octets.bit first 7 <;> simp [isSignExtension, sign]

theorem signFill_replicate_append (count : Nat) (octets : Octets) :
    signFill (List.replicate count (signFill octets) ++ octets) = signFill octets := by
  cases count with
  | zero => rfl
  | succ count =>
    cases octets with
    | nil => rfl
    | cons first rest =>
      exact (signFill_of_isSignExtension rest (isSignExtension_signFill first rest)).2

theorem dropSignExtension_replicate_append (count : Nat) {octets : Octets}
    (nonempty : octets ≠ []) :
    dropSignExtension (List.replicate count (signFill octets) ++ octets) =
      dropSignExtension octets := by
  induction count with
  | zero => rfl
  | succ count ih =>
    have filled := signFill_replicate_append count octets
    rw [List.replicate_succ, List.cons_append, ← ih]
    cases behind : List.replicate count (signFill octets) ++ octets with
    | nil => exact absurd (List.append_eq_nil_iff.mp behind).2 nonempty
    | cons next rest =>
      rw [behind] at filled
      rw [dropSignExtension, ← filled, if_pos (isSignExtension_signFill next rest)]

/-! ## What a content stands for -/

theorem ofWord64_ofBigEndian {octets : Octets} (eight : octets.length = 8) :
    Octets.ofWord64 (UInt64.ofNat (Octets.ofBigEndian octets)) = octets := by
  have fits : Octets.ofBigEndian octets < 2 ^ 64 := by
    have places := Octets.ofBigEndian_lt octets
    rwa [eight, Nat.one_shiftLeft] at places
  rw [Octets.ofWord64, UInt64.toNat_ofNat', Nat.mod_eq_of_lt fits, ← eight]
  exact Octets.bigEndian_ofBigEndian octets

/-- A content that is read is written again without the zeros in front. -/
theorem unsignedContent_of_decode {content : Octets} {value : UInt64}
    (read : decodeUnsignedContent content = .ok value) :
    unsignedContent value = dropLeadingZeros content := by
  unfold decodeUnsignedContent at read
  split at read
  · cases read
  · next allowed =>
    cases read
    obtain ⟨some, few⟩ := not_or.mp allowed
    have eight : (List.replicate (8 - content.length) 0 ++ content).length = 8 := by
      rw [List.length_append, List.length_replicate]
      omega
    rw [unsignedContent, ← ofBigEndian_replicate_append (8 - content.length),
      ofWord64_ofBigEndian eight]
    exact dropLeadingZeros_replicate_append _ fun none => some (List.length_eq_zero_iff.mpr none)

/-- A content that is read is written again without the octets in front that repeat the sign. -/
theorem signedContent_of_decode {content : Octets} {value : Int64}
    (read : decodeSignedContent content = .ok value) :
    signedContent value = dropSignExtension content := by
  unfold decodeSignedContent at read
  split at read
  · cases read
  · next allowed =>
    cases read
    obtain ⟨some, few⟩ := not_or.mp allowed
    have eight :
        (List.replicate (8 - content.length) (signFill content) ++ content).length = 8 := by
      rw [List.length_append, List.length_replicate]
      omega
    rw [signedContent, UInt64.toUInt64_toInt64, ofWord64_ofBigEndian eight]
    exact dropSignExtension_replicate_append _ fun none => some (List.length_eq_zero_iff.mpr none)

/-! ## How long a content is -/

/-- An unsigned integer takes the octets that its size needs. -/
theorem length_unsignedContent_le_iff {value : UInt64} {width : Nat} (room : 0 < width) :
    (unsignedContent value).length ≤ width ↔ value.toNat < 2 ^ (8 * width) := by
  constructor
  · intro short
    have fits := Octets.ofBigEndian_lt (unsignedContent value)
    rw [ofBigEndian_unsignedContent, Nat.one_shiftLeft] at fits
    exact Nat.lt_of_lt_of_le fits (Nat.pow_le_pow_right (by decide) (Nat.mul_le_mul_left 8 short))
  · intro fits
    rw [← Nat.one_shiftLeft] at fits
    exact length_unsignedContent_le room fits

/-- The number that octets stand for in two's complement. -/
def signedValue : Octets → Int
  | [] => 0
  | first :: rest =>
    Octets.ofBigEndian (first :: rest) -
      if Octets.bit first 7 then 2 ^ (8 * (rest.length + 1)) else 0

theorem bit_seven_iff (octet : UInt8) : Octets.bit octet 7 = true ↔ 128 ≤ octet.toNat := by
  have small := octet.toNat_lt
  rw [Octets.bit, Nat.testBit_eq_decide_div_mod_eq, decide_eq_true_iff]
  omega

/-- The octet in front tells the sign and the size of a number. -/
theorem signedValue_cons (first : UInt8) (rest : Octets) :
    signedValue (first :: rest) =
      (first.toNat - if Octets.bit first 7 then 256 else 0) * 2 ^ (8 * rest.length) +
        Octets.ofBigEndian rest := by
  have grown : (2 : Int) ^ (8 * (rest.length + 1)) = 256 * 2 ^ (8 * rest.length) := by
    rw [Nat.mul_succ, pow_add]
    ring
  rw [signedValue, Octets.ofBigEndian_cons, Nat.shiftLeft_eq, grown]
  push_cast
  split <;> ring

theorem ofBigEndian_lt_two_pow (octets : Octets) :
    (Octets.ofBigEndian octets : Int) < 2 ^ (8 * octets.length) := by
  have places := Octets.ofBigEndian_lt octets
  rw [Nat.one_shiftLeft] at places
  exact_mod_cast places

/-- An octet in front that only repeats the sign adds nothing. -/
theorem signedValue_of_isSignExtension {first second : UInt8} (rest : Octets)
    (repeats : isSignExtension first second = true) :
    signedValue (first :: second :: rest) = signedValue (second :: rest) := by
  rw [signedValue_cons, signedValue, List.length_cons]
  obtain both | both := Bool.or_eq_true_iff.mp repeats
  · obtain ⟨zero, clear⟩ := Bool.and_eq_true_iff.mp both
    rw [Bool.not_eq_true'] at clear
    rw [eq_of_beq zero, clear]
    simp [Octets.bit]
  · obtain ⟨ones, set⟩ := Bool.and_eq_true_iff.mp both
    have front : Octets.bit 255 7 = true := rfl
    rw [eq_of_beq ones, set, front, if_pos rfl, if_pos rfl]
    show ((255 : Int) - 256) * _ + _ = _
    ring

/-- What the octet in front is worth. -/
theorem signedValue_bounds (first : UInt8) (rest : Octets) :
    -(128 * 2 ^ (8 * rest.length)) ≤ signedValue (first :: rest) ∧
      signedValue (first :: rest) < 128 * 2 ^ (8 * rest.length) := by
  have below := ofBigEndian_lt_two_pow rest
  have small := first.toNat_lt
  rw [signedValue_cons]
  generalize (2 : Int) ^ (8 * rest.length) = place at below
  generalize Octets.ofBigEndian rest = behind at below
  have positive : 0 ≤ place := by omega
  split
  · next set =>
    have large := (bit_seven_iff first).mp set
    constructor <;> nlinarith
  · next clear =>
    have low := mt (bit_seven_iff first).mpr clear
    constructor <;> nlinarith

/-- An octet in front that does more than repeat the sign is needed. -/
theorem signedValue_outside {first second : UInt8} (rest : Octets)
    (needed : ¬ isSignExtension first second = true) :
    signedValue (first :: second :: rest) < -(128 * 2 ^ (8 * rest.length)) ∨
      128 * 2 ^ (8 * rest.length) ≤ signedValue (first :: second :: rest) := by
  have below := ofBigEndian_lt_two_pow rest
  have grown : (2 : Int) ^ (8 * (rest.length + 1)) = 256 * 2 ^ (8 * rest.length) := by
    rw [Nat.mul_succ, pow_add]
    ring
  have split : (Octets.ofBigEndian (second :: rest) : Int) =
      second.toNat * 2 ^ (8 * rest.length) + Octets.ofBigEndian rest := by
    rw [Octets.ofBigEndian_cons, Nat.shiftLeft_eq]
    push_cast
    rfl
  rw [signedValue_cons, List.length_cons, grown, split]
  generalize (2 : Int) ^ (8 * rest.length) = place at below
  generalize Octets.ofBigEndian rest = behind at below
  have sign := bit_seven_iff second
  split
  · next set =>
    -- A negative number: the first octet is below 255, or the second one does not repeat the sign.
    left
    by_cases ones : first = 255
    · have clear : ¬ 128 ≤ second.toNat := by
        rw [← sign]
        subst ones
        simpa [isSignExtension] using needed
      subst ones
      show ((255 : Int) - 256) * _ + _ < _
      nlinarith
    · have large := (bit_seven_iff first).mp set
      have less : first.toNat < 255 :=
        Nat.lt_of_le_of_ne (Nat.le_of_lt_succ first.toNat_lt) fun same =>
          ones (UInt8.toNat_inj.mp same)
      have small := second.toNat_lt
      nlinarith
  · next clear =>
    right
    by_cases zero : first = 0
    · have set : 128 ≤ second.toNat := by
        rw [← sign]
        subst zero
        simpa [isSignExtension] using needed
      subst zero
      show _ ≤ ((0 : Int) - 0) * _ + _
      nlinarith
    · have more : 0 < first.toNat :=
        Nat.pos_of_ne_zero fun same => zero (UInt8.toNat_inj.mp same)
      nlinarith

theorem two_pow_pred (width : Nat) : (2 : Int) ^ (8 * (width + 1) - 1) = 128 * 2 ^ (8 * width) := by
  rw [Nat.mul_succ, Nat.add_sub_assoc (by decide), pow_add]
  ring

theorem two_pow_mono {width other : Nat} (le : width ≤ other) :
    (2 : Int) ^ (8 * width) ≤ 2 ^ (8 * other) :=
  pow_le_pow_right₀ (by decide) (Nat.mul_le_mul_left 8 le)

/-- The octets that are kept are those that the size of the number needs. -/
theorem length_dropSignExtension_le_iff {octets : Octets} (nonempty : octets ≠ []) (width : Nat) :
    (dropSignExtension octets).length ≤ width + 1 ↔
      -(2 ^ (8 * (width + 1) - 1)) ≤ signedValue octets ∧
        signedValue octets < 2 ^ (8 * (width + 1) - 1) := by
  rw [two_pow_pred]
  fun_induction dropSignExtension octets with
  | case1 => exact absurd rfl nonempty
  | case2 last =>
    have bounds := signedValue_bounds last []
    have wider := two_pow_mono (Nat.zero_le width)
    refine iff_of_true (Nat.succ_le_succ (Nat.zero_le _)) ?_
    simp only [List.length_nil] at bounds
    omega
  | case3 first second rest repeats ih =>
    rw [signedValue_of_isSignExtension rest repeats]
    exact ih (List.cons_ne_nil _ _)
  | case4 first second rest needed =>
    constructor
    · intro short
      have bounds := signedValue_bounds first (second :: rest)
      have wider := two_pow_mono (Nat.le_of_succ_le_succ short)
      omega
    · rintro ⟨low, high⟩
      by_contra long
      have shorter : width ≤ rest.length := by
        rw [List.length_cons, List.length_cons] at long
        omega
      have narrower := two_pow_mono shorter
      rcases signedValue_outside rest needed with below | above <;> omega

theorem signedValue_ofWord64 (value : Int64) :
    signedValue (Octets.ofWord64 value.toUInt64) = value.toInt := by
  have number := Octets.ofBigEndian_ofWord64 value.toUInt64
  have eight : (Octets.ofWord64 value.toUInt64).length = 8 := Octets.length_bigEndian _ _
  generalize Octets.ofWord64 value.toUInt64 = octets at number eight
  cases octets with
  | nil => cases eight
  | cons first rest =>
    have seven : rest.length = 7 := Nat.succ.inj eight
    have top : Octets.bit first 7 = true ↔ 2 ^ 63 ≤ value.toUInt64.toNat := by
      have behind := Octets.ofBigEndian_lt rest
      rw [seven, Nat.one_shiftLeft] at behind
      rw [bit_seven_iff, ← number, Octets.ofBigEndian_cons, Nat.shiftLeft_eq, seven]
      omega
    have signed : value.toInt = BitVec.toInt value.toBitVec := rfl
    have same : value.toBitVec.toNat = value.toUInt64.toNat := rfl
    rw [signedValue, number, signed, BitVec.toInt_eq_toNat_cond, seven, same]
    simp only [top]
    split <;> split <;> omega

/-- A signed integer takes the octets that its size needs. -/
theorem length_signedContent_le_iff {value : Int64} {width : Nat} (room : 0 < width) :
    (signedContent value).length ≤ width ↔
      -(2 ^ (8 * width - 1)) ≤ value.toInt ∧ value.toInt < 2 ^ (8 * width - 1) := by
  obtain ⟨rest, rfl⟩ := Nat.exists_eq_succ_of_ne_zero (Nat.ne_of_gt room)
  have eight : (Octets.ofWord64 value.toUInt64).length = 8 := Octets.length_bigEndian _ _
  rw [signedContent, length_dropSignExtension_le_iff (List.ne_nil_of_length_eq_add_one eight),
    signedValue_ofWord64]

/-! ## Contents in their shortest form -/

/-- Numbers are written in one to eight octets, and read back. All contents of one to eight octets
are read, and each is what is written for its number behind octets that fill it up. -/
structure ShortestContents {α : Type} (write : α → Octets) (read : Octets → Except DataError α)
    (fill : Octets → UInt8) : Prop where
  reads_back : ∀ value, read (write value) = .ok value
  written : ∀ value, 0 < (write value).length ∧ (write value).length ≤ 8
  accepted : ∀ content, (∃ value, read content = .ok value) ↔
    0 < content.length ∧ content.length ≤ 8
  shortest : ∀ content value, read content = .ok value →
    (write value).length ≤ content.length ∧
      content = List.replicate (content.length - (write value).length) (fill (write value)) ++
        write value

theorem exists_decodeUnsignedContent_iff (content : Octets) :
    (∃ value, decodeUnsignedContent content = .ok value) ↔
      0 < content.length ∧ content.length ≤ 8 := by
  unfold decodeUnsignedContent
  split
  · exact iff_of_false nofun (by omega)
  · exact iff_of_true ⟨_, rfl⟩ (by omega)

theorem exists_decodeSignedContent_iff (content : Octets) :
    (∃ value, decodeSignedContent content = .ok value) ↔
      0 < content.length ∧ content.length ≤ 8 := by
  unfold decodeSignedContent
  split
  · exact iff_of_false nofun (by omega)
  · exact iff_of_true ⟨_, rfl⟩ (by omega)

theorem shortestContents_unsigned :
    ShortestContents unsignedContent decodeUnsignedContent fun _ => 0 where
  reads_back := decodeUnsignedContent_unsignedContent
  written value := ⟨length_unsignedContent_pos value, length_unsignedContent_le_eight value⟩
  accepted := exists_decodeUnsignedContent_iff
  shortest content value read := by
    rw [unsignedContent_of_decode read]
    exact ⟨length_dropLeadingZeros_le_length content, (fill_dropLeadingZeros content).symm⟩

theorem shortestContents_signed :
    ShortestContents signedContent decodeSignedContent signFill where
  reads_back := decodeSignedContent_signedContent
  written value :=
    (exists_decodeSignedContent_iff _).mp ⟨value, decodeSignedContent_signedContent value⟩
  accepted := exists_decodeSignedContent_iff
  shortest content value read := by
    rw [signedContent_of_decode read, signFill_dropSignExtension]
    exact ⟨length_dropSignExtension_le content, (fill_dropSignExtension content).symm⟩

/-- Integers are written in their shortest contents: in front of what is written for a number, all
its other contents have nothing but zeros or, if it is signed, octets that repeat its sign. An
unsigned number takes as many octets as it needs to be below a power of 256, and a signed one as
many as it needs to lie in the range of two's complement. -/
theorem integer_contents_shortest :
    ShortestContents unsignedContent decodeUnsignedContent (fun _ => 0) ∧
    ShortestContents signedContent decodeSignedContent signFill ∧
    (∀ value width, 0 < width →
      ((unsignedContent value).length ≤ width ↔ value.toNat < 2 ^ (8 * width))) ∧
    ∀ value width, 0 < width →
      ((signedContent value).length ≤ width ↔
        -(2 ^ (8 * width - 1)) ≤ value.toInt ∧ value.toInt < 2 ^ (8 * width - 1)) :=
  ⟨shortestContents_unsigned, shortestContents_signed,
    fun _ _ room => length_unsignedContent_le_iff room,
    fun _ _ room => length_signedContent_le_iff room⟩

/-- The numbers on both sides of the range of one octet. -/
example : signedContent 127 = [127] ∧ signedContent 128 = [0, 128] ∧
    signedContent (-128) = [128] ∧ signedContent (-129) = [255, 127] := by
  decide

end BACnet
