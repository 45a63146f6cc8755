import Mathlib.Data.Nat.Bitwise
import BACnet.Proofs.Data.BitString

/-!
# Bits and octets

`BitString.unpackOctets` takes packed octets apart again. The bits of a bit string are the first of
those that come out (`BitString.bits_eq_take`), and in one that has been built the others are zero
(`BitString.Canonical.unpackOctets_eq`). So there is one bit string only for each list of bits
(`BitString.one_form_for_bits`).
-/

namespace BACnet

namespace BitString

/-! ## Taking octets apart -/

/-- The bits of an octet, the most significant one first. -/
def unpackOctet (octet : UInt8) : List Bool :=
  (List.range 8).map fun index => Octets.bit octet (7 - index)

/-- The bits of octets in order. -/
def unpackOctets (octets : Octets) : List Bool := octets.flatMap unpackOctet

@[simp] theorem length_unpackOctet (octet : UInt8) : (unpackOctet octet).length = 8 := rfl

@[simp] theorem unpackOctets_cons (first : UInt8) (rest : Octets) :
    unpackOctets (first :: rest) = unpackOctet first ++ unpackOctets rest := rfl

@[simp] theorem length_unpackOctets (octets : Octets) :
    (unpackOctets octets).length = octets.length * 8 := by
  induction octets with
  | nil => rfl
  | cons first rest ih => simp [ih]; omega

theorem getElem?_unpackOctet (octet : UInt8) {index : Nat} (inside : index < 8) :
    (unpackOctet octet)[index]? = some (Octets.bit octet (7 - index)) := by
  simp [unpackOctet, inside]

theorem getElem?_unpackOctets (octets : Octets) (index : Nat) :
    (unpackOctets octets)[index]? =
      octets[index / 8]?.map fun octet => Octets.bit octet (7 - index % 8) := by
  induction octets generalizing index with
  | nil => simp
  | cons first rest ih =>
    by_cases inside : index < 8
    · rw [unpackOctets_cons, List.getElem?_append_left (by simpa using inside),
        getElem?_unpackOctet first inside, Nat.div_eq_of_lt inside, Nat.mod_eq_of_lt inside]
      rfl
    · obtain ⟨behind, rfl⟩ := Nat.exists_eq_add_of_le (Nat.not_lt.mp inside)
      rw [unpackOctets_cons, List.getElem?_append_right (by simp), length_unpackOctet,
        Nat.add_sub_cancel_left, ih, Nat.add_div_left behind (by decide), Nat.add_mod_left]
      rfl

theorem unpackOctet_injective {octet other : UInt8} (same : unpackOctet octet = unpackOctet other) :
    octet = other := by
  apply UInt8.toNat_inj.mp
  apply Nat.eq_of_testBit_eq
  intro index
  by_cases inside : index < 8
  · have equal := congrArg (·[7 - index]?) same
    simp only [getElem?_unpackOctet _ (show 7 - index < 8 by omega), Option.some.injEq] at equal
    rwa [show 7 - (7 - index) = index by omega] at equal
  · have large : 2 ^ 8 ≤ 2 ^ index := Nat.pow_le_pow_right (by decide) (Nat.not_lt.mp inside)
    rw [Nat.testBit_lt_two_pow (Nat.lt_of_lt_of_le octet.toNat_lt large),
      Nat.testBit_lt_two_pow (Nat.lt_of_lt_of_le other.toNat_lt large)]

theorem unpackOctets_injective {octets others : Octets}
    (same : unpackOctets octets = unpackOctets others) : octets = others := by
  induction octets generalizing others with
  | nil =>
    cases others with
    | nil => rfl
    | cons first rest => cases same
  | cons octet rest ih =>
    cases others with
    | nil => cases same
    | cons other more =>
      obtain ⟨first, behind⟩ := List.append_inj same rfl
      rw [unpackOctet_injective first, ih behind]

/-! ## Taking packed bits apart -/

/-- Bits that are appended to a number move its own bits up. -/
theorem testBit_foldl_add (bits : List Bool) (value index : Nat) :
    (bits.foldl (fun value bit => value * 2 + bit.toNat) value).testBit (bits.length + index) =
      value.testBit index := by
  induction bits generalizing value index with
  | nil => simp
  | cons bit rest ih =>
    have small := bit.toNat_lt
    have half : (value * 2 + bit.toNat) / 2 = value := by omega
    rw [List.foldl_cons, List.length_cons, Nat.add_right_comm, Nat.add_assoc, ih,
      Nat.testBit_succ, half]

/-- The bits of a number that has been put together from bits. -/
theorem map_testBit_foldl (bits : List Bool) (value : Nat) :
    (List.range bits.length).map (fun index =>
      (bits.foldl (fun value bit => value * 2 + bit.toNat) value).testBit
        (bits.length - 1 - index)) = bits := by
  induction bits generalizing value with
  | nil => rfl
  | cons bit rest ih =>
    have first : (rest.foldl (fun value bit => value * 2 + bit.toNat)
        (value * 2 + bit.toNat)).testBit rest.length = bit := by
      have top := testBit_foldl_add rest (value * 2 + bit.toNat) 0
      rw [Nat.add_zero] at top
      rw [top]
      cases bit <;> simp [Nat.testBit_zero]
    rw [List.length_cons, List.range_succ_eq_map, List.map_cons, List.map_map, List.foldl_cons]
    refine congrArg₂ List.cons first (Eq.trans ?_ (ih (value * 2 + bit.toNat)))
    refine List.map_congr_left fun index _ => ?_
    show Nat.testBit _ (rest.length + 1 - 1 - (index + 1)) = _
    congr 1
    omega

theorem unpackOctet_packOctet (bits : List Bool) :
    unpackOctet (packOctet bits) = bits.take 8 ++ List.replicate (8 - bits.length) false := by
  unfold packOctet
  generalize filled : bits.take 8 ++ List.replicate (8 - bits.length) false = eight
  have length : eight.length = 8 := by
    rw [← filled, List.length_append, List.length_take, List.length_replicate]
    omega
  have fits := foldl_bits_lt eight 0
  have back := map_testBit_foldl eight 0
  rw [length] at fits back
  refine Eq.trans (List.map_congr_left fun index _ => ?_) back
  rw [Octets.bit, UInt8.toNat_ofNat', Nat.mod_eq_of_lt (by simpa using fits)]

/-- Behind the bits that were packed there are only the unused ones. -/
theorem unpackOctets_packOctets (bits : List Bool) :
    unpackOctets (packOctets bits) =
      bits ++ List.replicate ((8 - bits.length % 8) % 8) false := by
  fun_induction packOctets bits with
  | case1 => rfl
  | case2 bit rest ih =>
    rw [unpackOctets_cons, ih, unpackOctet_packOctet]
    have some : 0 < (bit :: rest).length := Nat.succ_pos _
    generalize bit :: rest = bits at some
    by_cases last : bits.length < 8
    · have unused : 8 - bits.length = (8 - bits.length % 8) % 8 := by omega
      rw [List.take_of_length_le (Nat.le_of_lt last), List.drop_of_length_le (Nat.le_of_lt last),
        unused]
      exact List.append_nil _
    · have whole : 8 - bits.length = 0 := by omega
      have same : (8 - (bits.drop 8).length % 8) % 8 = (8 - bits.length % 8) % 8 := by
        rw [List.length_drop]
        omega
      rw [whole, same, List.replicate_zero, List.append_nil, ← List.append_assoc,
        List.take_append_drop]

/-! ## The bits of a bit string -/

theorem filterMap_range_getElem? {α : Type} (list : List α) (count : Nat) :
    (List.range count).filterMap (list[·]?) = list.take count := by
  induction count with
  | zero => rfl
  | succ count ih =>
    rw [List.range_succ, List.filterMap_append, ih, List.take_add_one]
    cases found : list[count]? <;> simp [found]

variable {string other : BitString}

theorem get?_eq_take (string : BitString) (index : Nat) :
    string.get? index = ((unpackOctets string.octets).take string.length)[index]? := by
  rw [get?, List.getElem?_take, getElem?_unpackOctets]

theorem bits_eq_take (string : BitString) :
    string.bits = (unpackOctets string.octets).take string.length := by
  rw [bits, funext string.get?_eq_take, filterMap_range_getElem?, List.take_take, Nat.min_self]

/-- The bits are those that are read one by one. -/
theorem get?_eq_getElem?_bits (string : BitString) (index : Nat) :
    string.get? index = string.bits[index]? := by
  rw [get?_eq_take, bits_eq_take]

@[simp] theorem length_bits (string : BitString) : string.bits.length = string.length := by
  rw [bits_eq_take, List.length_take, length_unpackOctets, Nat.min_eq_left]
  exact Nat.sub_le _ _

theorem length_ofBits (bits : List Bool) : (ofBits bits).length = bits.length := by
  have packed := congrArg List.length (unpackOctets_packOctets bits)
  rw [length_unpackOctets, List.length_append, List.length_replicate] at packed
  rw [length, ofBits]
  dsimp only
  rw [packed, UInt8.toNat_ofNat']
  omega

theorem bits_ofBits (bits : List Bool) : (ofBits bits).bits = bits := by
  rw [bits_eq_take, length_ofBits, ofBits]
  dsimp only
  rw [unpackOctets_packOctets, List.take_left]

/-! ## Bit strings in their one form -/

/-- At most seven bits are unused, none if there is no octet, and they are zero. -/
structure Canonical (string : BitString) : Prop where
  unused_le : string.unused.toNat ≤ 7
  unused_of_empty : string.octets = [] → string.unused = 0
  cleared : ∀ last ∈ string.octets.getLast?, ∀ index < string.unused.toNat,
    Octets.bit last index = false

/-- There are not more unused bits than bits. -/
theorem Canonical.unused_le_octets (canonical : string.Canonical) :
    string.unused.toNat ≤ string.octets.length * 8 := by
  have small := canonical.unused_le
  cases octets : string.octets with
  | nil =>
    rw [canonical.unused_of_empty octets]
    exact Nat.zero_le _
  | cons first rest =>
    rw [List.length_cons]
    omega

theorem bit_clearLow {unused octet : UInt8} {index : Nat} (low : index < unused.toNat) :
    Octets.bit (clearLow unused octet) index = false := by
  rw [Octets.bit, clearLow, UInt8.toNat_ofNat', Nat.testBit_mod_two_pow, Nat.testBit_shiftLeft]
  simp [Nat.not_le.mpr low]

theorem getLast?_clearUnused (unused : UInt8) (octets : Octets) :
    (clearUnused unused octets).getLast? = octets.getLast?.map (clearLow unused) := by
  fun_induction clearUnused unused octets with
  | case1 => rfl
  | case2 last => rfl
  | case3 first rest several ih =>
    obtain ⟨last, found⟩ := Option.isSome_iff_exists.mp (List.getLast?_isSome.mpr several)
    rw [found] at ih
    rw [List.getLast?_cons, List.getLast?_cons, ih, found]
    rfl

/-- Octets are accepted if at most seven bits are unused, and none if there is no octet. -/
theorem ofOctets_eq_ok_iff {unused : UInt8} {octets : Octets} :
    ofOctets unused octets = .ok string ↔
      (unused.toNat ≤ 7 ∧ (octets = [] → unused = 0)) ∧
        string = ⟨unused, clearUnused unused octets⟩ := by
  have refused : (7 < unused.toNat ∨ octets.length = 0 ∧ unused ≠ 0) ↔
      ¬ (unused.toNat ≤ 7 ∧ (octets = [] → unused = 0)) := by
    rw [not_and_or, Nat.not_le, Classical.not_imp, List.length_eq_zero_iff]
  rw [ofOctets]
  split
  · next no =>
    refine iff_of_false (fun read => ?_) fun both => refused.mp no both.1
    cases read
  · next yes =>
    rw [refused, not_not] at yes
    rw [Except.ok.injEq, and_iff_right yes]
    exact eq_comm

theorem canonical_of_ofOctets {unused : UInt8} {octets : Octets}
    (made : ofOctets unused octets = .ok string) : string.Canonical := by
  obtain ⟨⟨small, none⟩, rfl⟩ := ofOctets_eq_ok_iff.mp made
  refine ⟨small, fun empty => none ?_, fun last isLast index low => ?_⟩
  · rw [← List.length_eq_zero_iff, ← length_clearUnused unused octets]
    exact List.length_eq_zero_iff.mpr empty
  · obtain ⟨octet, -, rfl⟩ := Option.mem_map.mp (getLast?_clearUnused unused octets ▸ isLast)
    exact bit_clearLow low

theorem Built.canonical (built : string.Built) : string.Canonical := by
  obtain ⟨bits, rfl⟩ | ⟨unused, octets, made⟩ := built
  · exact canonical_of_ofOctets (ofOctets_ofBits bits)
  · exact canonical_of_ofOctets made

/-- Behind the bits of the string there are only zeros. -/
theorem Canonical.unpackOctets_eq (canonical : string.Canonical) :
    unpackOctets string.octets =
      string.bits ++ List.replicate string.unused.toNat false := by
  have fits := canonical.unused_le_octets
  have small := canonical.unused_le
  rw [bits_eq_take]
  refine (List.take_append_drop string.length _).symm.trans (congrArg _ ?_)
  refine List.eq_replicate_iff.mpr ⟨?_, fun bit member => ?_⟩
  · rw [List.length_drop, length_unpackOctets, length]
    omega
  · obtain ⟨index, behind, rfl⟩ := List.mem_iff_getElem.mp member
    rw [List.length_drop, length_unpackOctets] at behind
    have lengths : string.length + string.unused.toNat = string.octets.length * 8 := by
      rw [length]
      omega
    have last : (string.length + index) / 8 = string.octets.length - 1 := by omega
    have low : 7 - (string.length + index) % 8 < string.unused.toNat := by omega
    have found := getElem?_unpackOctets string.octets (string.length + index)
    rw [last, ← List.getLast?_eq_getElem?,
      List.getElem?_eq_getElem (by rw [length_unpackOctets]; omega)] at found
    obtain ⟨octet, isLast, bit⟩ := Option.map_eq_some_iff.mp found.symm
    rw [List.getElem_drop, ← bit]
    exact canonical.cleared octet isLast _ low

/-- A bit string is known by its bits. -/
theorem Canonical.eq_of_bits (canonical : string.Canonical) (canonical' : other.Canonical)
    (same : string.bits = other.bits) : string = other := by
  have lengths := congrArg List.length same
  rw [length_bits, length_bits, length, length] at lengths
  have fits := canonical.unused_le_octets
  have fits' := canonical'.unused_le_octets
  have small := canonical.unused_le
  have small' := canonical'.unused_le
  have unused : string.unused = other.unused := UInt8.toNat_inj.mp (by omega)
  have octets : string.octets = other.octets := by
    apply unpackOctets_injective
    rw [canonical.unpackOctets_eq, canonical'.unpackOctets_eq, same, unused]
  exact (mk.injEq _ _ _ _).mpr ⟨unused, octets⟩

theorem built_of_decodeContent {content : Octets} (read : decodeContent content = .ok string) :
    string.Built := by
  cases content with
  | nil => cases read
  | cons unused octets => exact .inr ⟨unused, octets, read⟩

/-- A content is accepted if it tells how many bits of its last octet are unused. -/
theorem exists_decodeContent_iff {content : Octets} :
    (∃ string, decodeContent content = .ok string) ↔
      ∃ unused octets, content = unused :: octets ∧ unused.toNat ≤ 7 ∧
        (octets = [] → unused = 0) := by
  constructor
  · rintro ⟨string, read⟩
    cases content with
    | nil => cases read
    | cons unused octets => exact ⟨unused, octets, rfl, (ofOctets_eq_ok_iff.mp read).1⟩
  · rintro ⟨unused, octets, rfl, allowed⟩
    exact ⟨_, ofOctets_eq_ok_iff.mpr ⟨allowed, rfl⟩⟩

/-- There is one bit string for each list of bits. Bits are packed into a bit string with these bits
and as many of them. A bit string that has been built, of bits, of octets or of a content, has its
unused bits cleared, and no more unused bits than bits; its bits are those that are read one by
one; it is read back from its content, and it is the only one with its bits. A content is accepted
if it tells how many bits of its last octet are unused, from none to seven. -/
theorem one_form_for_bits :
    (∀ bits : List Bool, (ofBits bits).Built ∧ (ofBits bits).bits = bits ∧
      (ofBits bits).length = bits.length) ∧
    (∀ unused octets string, ofOctets unused octets = .ok string → string.Built) ∧
    (∀ content string, decodeContent content = .ok string → string.Built) ∧
    (∀ string : BitString, string.Built →
      string.Canonical ∧ string.unused.toNat ≤ string.octets.length * 8 ∧
      string.bits.length = string.length ∧
      (∀ index, string.get? index = string.bits[index]?) ∧
      decodeContent string.content = .ok string ∧
      ∀ other : BitString, other.Built → (string = other ↔ string.bits = other.bits)) ∧
    ∀ content, (∃ string, decodeContent content = .ok string) ↔
      ∃ unused octets, content = unused :: octets ∧ unused.toNat ≤ 7 ∧
        (octets = [] → unused = 0) := by
  refine ⟨fun bits => ⟨.inl ⟨bits, rfl⟩, bits_ofBits bits, length_ofBits bits⟩,
    fun unused octets string made => .inr ⟨unused, octets, made⟩,
    fun content string read => built_of_decodeContent read, fun string built => ?_,
    fun content => exists_decodeContent_iff⟩
  have canonical := built.canonical
  refine ⟨canonical, canonical.unused_le_octets, string.length_bits,
    string.get?_eq_getElem?_bits, built.decodeContent, fun other built' => ⟨?_, ?_⟩⟩
  · rintro rfl
    rfl
  · exact canonical.eq_of_bits built'.canonical

/-- Four set bits and a full octet of which four bits are unused make the same bit string. -/
theorem one_form_for_bits_of_four :
    ofOctets 4 [0xFF] = .ok ⟨4, [0xF0]⟩ ∧ ofBits [true, true, true, true] = ⟨4, [0xF0]⟩ := by
  obtain ⟨packed, fromOctets, -, built, -⟩ := one_form_for_bits
  have cleared : ofOctets 4 [0xFF] = .ok ⟨4, [0xF0]⟩ := by decide
  obtain ⟨made, bits, -⟩ := packed [true, true, true, true]
  obtain ⟨-, -, -, -, -, unique⟩ := built _ made
  exact ⟨cleared, (unique _ (fromOctets _ _ _ cleared)).mpr (bits.trans (by decide))⟩

end BitString

end BACnet
