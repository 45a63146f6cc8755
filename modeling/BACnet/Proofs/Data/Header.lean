import BACnet.Data.Value
import BACnet.Proofs.Octets.Reading

/-!
# Reading tags

A tag that is written is read back, whatever follows it (`Tag.decode_append`), if it is one of those
that have a meaning (`Tag.Meaningful`). Only the octets that a tag takes decide how it is read
(`Tag.exists_front_of_decode`). The element behind an application tag is then found from the
length that the tag announces (`Value.decode_encodeApplication_append`).
-/

namespace BACnet

namespace Octets

/-- The fields and bits of an octet that is put together from its two halves. -/
theorem halves {upper lower : Nat} (above : upper < 16) (below : lower < 16) :
    field (UInt8.ofNat (upper * 16 + lower)) 4 4 = upper ∧
      field (UInt8.ofNat (upper * 16 + lower)) 0 4 = lower ∧
      field (UInt8.ofNat (upper * 16 + lower)) 0 3 = lower % 8 ∧
      ∀ index < 4, bit (UInt8.ofNat (upper * 16 + lower)) index = lower.testBit index := by
  have whole : (UInt8.ofNat (upper * 16 + lower)).toNat = 2 ^ 4 * upper + lower := by
    rw [UInt8.toNat_ofNat']
    omega
  unfold field bit
  rw [whole]
  simp only [Nat.shiftRight_eq_div_pow, Nat.shiftLeft_eq]
  refine ⟨by omega, by omega, by omega, fun index low => ?_⟩
  rw [Nat.testBit_two_pow_mul_add upper below, if_pos low]

end Octets

namespace Tag

/-- The tag is one that a reader admits: only context tags open and close constructed values, and an
application boolean carries a truth value in place of a length. -/
def Meaningful (tag : Tag) : Prop :=
  tag.tagClass = .application →
    ∃ length, tag.kind = .value length ∧ (tag.number = DataType.boolean.number → length ≤ 1)

theorem kindField_lt (kind : TagKind) : kindField kind < 8 := by
  cases kind with
  | value length =>
    unfold kindField
    dsimp only
    split <;> omega
  | opening | closing => decide

/-- The class bit and the field below it do not touch each other. -/
theorem class_and_field (tagClass : TagClass) {field : Nat} (small : field < 8) :
    classBit tagClass + field < 16 ∧ (classBit tagClass + field) % 8 = field ∧
      (if (classBit tagClass + field).testBit 3 then TagClass.context else .application) =
        tagClass := by
  revert field
  cases tagClass <;> decide

theorem exists_encodeLength {length : Nat} (fits : length < 0x100000000) :
    ∃ octets, encodeLength length = .ok octets := by
  unfold encodeLength
  rw [if_pos fits]
  split
  · exact ⟨_, rfl⟩
  · split <;> exact ⟨_, rfl⟩

theorem exists_tail (number : UInt8) (tagClass : TagClass) {length : Nat}
    (fits : length < 0x100000000) :
    ∃ octets, tail ⟨number, tagClass, .value length⟩ = .ok octets := by
  by_cases short : length < 5
  · exact ⟨[], if_pos short⟩
  · obtain ⟨octets, told⟩ := exists_encodeLength fits
    exact ⟨octets, (if_neg short).trans told⟩

theorem encode_of_tail {tag : Tag} (writable : tag.number ≠ 255) {octets : Octets}
    (told : tag.tail = .ok octets) : tag.encode = .ok (tag.head ++ octets) := by
  rw [encode, if_neg writable, told]
  rfl

theorem decodeLength_append {length : Nat} {octets : Octets}
    (encodes : encodeLength length = .ok octets) (rest : Octets) :
    decodeLength (octets ++ rest) = some (length, octets.length) := by
  have behind (width : Nat) : Octets.take? width (Octets.bigEndian width length ++ rest) =
      some (Octets.bigEndian width length) := by
    simp [Octets.take?, Octets.length_bigEndian]
  have spelled (width : Nat) (fits : length < 1 <<< (8 * width)) :
      Octets.ofBigEndian (Octets.bigEndian width length) = length := by
    rw [Octets.ofBigEndian_bigEndian, Nat.mod_eq_of_lt fits]
  unfold encodeLength at encodes
  split at encodes
  · next short =>
    cases encodes
    have marker : (UInt8.ofNat length).toNat = length := by
      rw [UInt8.toNat_ofNat']
      omega
    have ordinary (value : UInt8) (large : 254 ≤ value.toNat) : UInt8.ofNat length ≠ value := by
      rintro rfl
      omega
    show (if UInt8.ofNat length = 254 then _ else if UInt8.ofNat length = 255 then _ else _) = _
    rw [if_neg (ordinary 254 (by decide)), if_neg (ordinary 255 (by decide)), marker]
    rfl
  · split at encodes
    · next word =>
      cases encodes
      rw [List.cons_append, decodeLength, if_pos rfl, behind, Option.map_some, spelled 2 word]
      rfl
    · split at encodes
      · next long =>
        cases encodes
        rw [List.cons_append, decodeLength, if_neg (by decide), if_pos rfl, behind, Option.map_some,
          spelled 4 long]
        rfl
      · cases encodes

/-- The length/value/type field tells the kind of the tag, with the octets of a length behind it. -/
theorem decodeKind_append {tag : Tag} (meaningful : tag.Meaningful) {octets : Octets}
    (encodes : tag.tail = .ok octets) (rest : Octets) (used available : Nat) :
    decodeKind tag.tagClass tag.number (kindField tag.kind) (octets ++ rest) used available =
      .ok (tag.kind, octets.length) := by
  obtain ⟨number, tagClass, kind⟩ := tag
  cases kind with
  | value length =>
    unfold tail at encodes
    dsimp only at encodes
    by_cases short : length < 5
    · rw [if_pos short] at encodes
      cases encodes
      have field : kindField (.value length) = length := if_pos short
      rw [field]
      unfold decodeKind
      rw [if_neg (Nat.ne_of_lt short), if_pos short]
      rfl
    · rw [if_neg short] at encodes
      have field : kindField (.value length) = 5 := if_neg short
      rw [field]
      unfold decodeKind
      rw [if_pos rfl, decodeLength_append encodes]
  | opening | closing =>
    cases encodes
    cases tagClass with
    | application =>
      obtain ⟨_, primitive, -⟩ := meaningful rfl
      cases primitive
    | context => rfl

theorem checkBoolean_of_meaningful {tag : Tag} (meaningful : tag.Meaningful) :
    checkBoolean tag = .ok () := by
  obtain ⟨number, tagClass, kind⟩ := tag
  cases tagClass with
  | context => rfl
  | application =>
    obtain ⟨length, primitive, truth⟩ := meaningful rfl
    cases primitive
    exact if_neg fun ⟨boolean, long⟩ => Nat.not_lt_of_le (truth boolean) long

/-- The first octet of a tag tells its class and its length/value/type field, and from it and the
octets behind it the number is read. -/
theorem exists_head {tag : Tag} (writable : tag.number ≠ 255) :
    ∃ first extended, tag.head = first :: (if extended then [tag.number] else []) ∧
      (∀ rest, decodeNumber first ((if extended then [tag.number] else []) ++ rest) =
        .ok (tag.number, extended)) ∧
      Octets.field first 0 3 = kindField tag.kind ∧
      (if Octets.bit first 3 then TagClass.context else .application) = tag.tagClass := by
  obtain ⟨low, kind, tagClass⟩ := class_and_field tag.tagClass (kindField_lt tag.kind)
  unfold head
  dsimp only
  split
  · next short =>
    obtain ⟨number, -, field, bits⟩ := Octets.halves (Nat.lt_succ_of_lt short) low
    refine ⟨_, false, rfl, fun rest => ?_, field.trans kind, ?_⟩
    · unfold decodeNumber
      rw [number, if_neg (Nat.ne_of_lt short), UInt8.ofNat_toNat]
    · rw [bits 3 (by decide), tagClass]
  · obtain ⟨number, -, field, bits⟩ := Octets.halves (by decide : 15 < 16) low
    refine ⟨_, true, rfl, fun rest => ?_, field.trans kind, ?_⟩
    · unfold decodeNumber
      rw [number, if_pos rfl]
      exact if_neg writable
    · rw [bits 3 (by decide), tagClass]

/-- A tag that is written is read back, whatever follows it. -/
theorem decode_append {tag : Tag} (meaningful : tag.Meaningful) {octets : Octets}
    (encodes : tag.encode = .ok octets) (rest : Octets) :
    decode (octets ++ rest) = .ok (tag, octets.length) := by
  unfold encode at encodes
  split at encodes
  · cases encodes
  · next writable =>
    obtain ⟨length, told, encodes⟩ := exists_of_bind_eq_ok encodes
    cases encodes
    obtain ⟨first, extended, front, number, field, tagClass⟩ := exists_head writable
    rw [front, List.append_assoc, List.cons_append, decode, number]
    have behind : (first :: ((if extended then [tag.number] else []) ++ (length ++ rest))).drop
        (if extended then 2 else 1) = length ++ rest := by
      cases extended <;> rfl
    simp only [bind, Except.bind]
    rw [behind, field, tagClass, decodeKind_append meaningful told]
    simp only [checkBoolean_of_meaningful meaningful]
    cases extended <;> simp <;> omega

/-! ## Octets that decide a tag -/

theorem exists_front_of_decodeLength {octets : Octets} {length used : Nat}
    (reads : decodeLength octets = some (length, used)) :
    ∃ front behind, octets = front ++ behind ∧ front.length = used ∧
      ∀ other, decodeLength (front ++ other) = some (length, used) := by
  cases octets with
  | nil => cases reads
  | cons marker rest =>
    change (if marker = 254 then _ else if marker = 255 then _ else _) = _ at reads
    split at reads
    · next word =>
      obtain ⟨taken, takes, result⟩ := Option.map_eq_some_iff.mp reads
      obtain ⟨two, whole⟩ := Octets.append_of_take? takes
      cases result
      refine ⟨marker :: taken, rest.drop 2, congrArg (marker :: ·) whole, by simp [two],
        fun other => ?_⟩
      rw [List.cons_append, decodeLength, if_pos word, ← two, Octets.take?_append]
      rfl
    · next noWord =>
      split at reads
      · next long =>
        obtain ⟨taken, takes, result⟩ := Option.map_eq_some_iff.mp reads
        obtain ⟨four, whole⟩ := Octets.append_of_take? takes
        cases result
        refine ⟨marker :: taken, rest.drop 4, congrArg (marker :: ·) whole, by simp [four],
          fun other => ?_⟩
        rw [List.cons_append, decodeLength, if_neg noWord, if_pos long, ← four,
          Octets.take?_append]
        rfl
      · next short =>
        cases reads
        refine ⟨[marker], rest, rfl, rfl, fun other => ?_⟩
        rw [List.singleton_append, decodeLength, if_neg noWord, if_neg short]

theorem exists_front_of_decodeNumber {first number : UInt8} {rest : Octets} {extended : Bool}
    (reads : decodeNumber first rest = .ok (number, extended)) :
    ∃ front behind, rest = front ++ behind ∧ front.length = (if extended then 1 else 0) ∧
      ∀ other, decodeNumber first (front ++ other) = .ok (number, extended) := by
  unfold decodeNumber at reads ⊢
  split at reads
  · next another =>
    cases rest with
    | nil => cases reads
    | cons octet behind =>
      dsimp only at reads
      split at reads
      · cases reads
      · next writable =>
        cases reads
        exact ⟨[number], behind, rfl, rfl, fun other => (if_pos another).trans (if_neg writable)⟩
  · next short =>
    cases reads
    exact ⟨[], rest, rfl, rfl, fun other => if_neg short⟩

theorem exists_front_of_decodeKind {tagClass : TagClass} {number : UInt8} {field : Nat}
    {rest : Octets} {used available : Nat} {kind : TagKind} {more : Nat}
    (reads : decodeKind tagClass number field rest used available = .ok (kind, more)) :
    ∃ front behind, rest = front ++ behind ∧ front.length = more ∧
      ∀ other available, decodeKind tagClass number field (front ++ other) used available =
        .ok (kind, more) := by
  unfold decodeKind at reads ⊢
  split at reads
  · next follows =>
    split at reads
    · next length octets told =>
      cases reads
      obtain ⟨front, behind, whole, size, reads⟩ := exists_front_of_decodeLength told
      refine ⟨front, behind, whole, size, fun other available => ?_⟩
      rw [if_pos follows, reads]
    · cases reads
  · next fits =>
    refine ⟨[], rest, rfl, ?_, fun other available => (if_neg fits).trans reads⟩
    split at reads
    · cases reads
      rfl
    · cases tagClass <;> cases reads
      rfl

/-- A tag is decided by the octets that it takes, of which there is at least one. -/
theorem exists_front_of_decode {data : Octets} {tag : Tag} {used : Nat}
    (reads : decode data = .ok (tag, used)) :
    ∃ front behind, data = front ++ behind ∧ front.length = used ∧ 0 < used ∧
      ∀ other, decode (front ++ other) = .ok (tag, used) := by
  cases data with
  | nil => cases reads
  | cons first rest =>
    obtain ⟨⟨number, extended⟩, numbered, reads⟩ := exists_of_bind_eq_ok reads
    dsimp only at reads
    obtain ⟨⟨kind, more⟩, kinded, reads⟩ := exists_of_bind_eq_ok reads
    dsimp only at reads
    obtain ⟨_, checked, reads⟩ := exists_of_bind_eq_ok reads
    cases reads
    obtain ⟨front, behind, rfl, size, numbers⟩ := exists_front_of_decodeNumber numbered
    have past (other : Octets) :
        (first :: (front ++ other)).drop (if extended then 2 else 1) = other := by
      cases extended
      · rw [List.length_eq_zero_iff.mp size]
        rfl
      · obtain ⟨octet, rfl⟩ := List.length_eq_one_iff.mp size
        rfl
    rw [past] at kinded
    obtain ⟨length, behind, rfl, sized, kinds⟩ := exists_front_of_decodeKind kinded
    refine ⟨first :: (front ++ length), behind, by simp, ?_, ?_, fun other => ?_⟩
    · rw [List.length_cons, List.length_append, size, sized]
      cases extended <;> simp <;> omega
    · have pos : 0 < (if extended = true then 2 else 1) := by cases extended <;> decide
      exact Nat.add_pos_left pos more
    · rw [List.cons_append, List.append_assoc, decode, numbers]
      simp only [bind, Except.bind]
      rw [past, kinds]
      simp only [checked]

/-- The octets of a tag are read in the same way whatever follows them. -/
theorem decode_append_of_decode {head : Octets} {tag : Tag}
    (reads : decode head = .ok (tag, head.length)) (rest : Octets) :
    decode (head ++ rest) = .ok (tag, head.length) := by
  obtain ⟨front, behind, rfl, size, -, decides⟩ := exists_front_of_decode reads
  rw [List.append_assoc]
  exact decides _

/-- A tag that is read opens or closes a constructed value only if it is a context tag. -/
theorem tagClass_of_decode {data : Octets} {tag : Tag} {used : Nat}
    (reads : decode data = .ok (tag, used)) (bracket : ∀ length, tag.kind ≠ .value length) :
    tag.tagClass = .context := by
  cases data with
  | nil => cases reads
  | cons first rest =>
    obtain ⟨⟨number, extended⟩, -, reads⟩ := exists_of_bind_eq_ok reads
    obtain ⟨⟨kind, more⟩, kinded, reads⟩ := exists_of_bind_eq_ok reads
    obtain ⟨_, -, reads⟩ := exists_of_bind_eq_ok reads
    cases reads
    dsimp only at kinded bracket ⊢
    unfold decodeKind at kinded
    split at kinded
    · split at kinded
      · cases kinded
        exact absurd rfl (bracket _)
      · cases kinded
    · split at kinded
      · cases kinded
        exact absurd rfl (bracket _)
      · split at kinded
        · cases kinded
        · next context => exact context

end Tag

/-! ## Elements behind application tags -/

/-- An application tag is written if its length fits 32 bits. -/
theorem encode_application (type : DataType) {length : Nat} (fits : length < 0x100000000) :
    (Tag.application type length).encode = .ok (encodeApplicationTag type length) := by
  have writable : type.number ≠ 255 := by cases type <;> decide
  obtain ⟨octets, told⟩ : ∃ octets, (Tag.application type length).tail = .ok octets :=
    Tag.exists_tail type.number .application fits
  rw [Tag.encode_of_tail writable told]
  unfold encodeApplicationTag
  dsimp only
  rw [told]

/-- An application tag is read back, whatever follows it. -/
theorem decodeApplicationTag_append {type : DataType} {length : Nat} (fits : length < 0x100000000)
    (truth : type = .boolean → length ≤ 1) (rest : Octets) :
    decodeApplicationTag (encodeApplicationTag type length ++ rest) =
      .ok (type, length, (encodeApplicationTag type length).length) := by
  have meaningful : (Tag.application type length).Meaningful := fun _ =>
    ⟨length, rfl, fun boolean => truth (by cases type <;> first | rfl | cases boolean)⟩
  have known : DataType.ofNumber type.number = .ok type := by
    rw [DataType.ofNumber, DataType.ofNumber?_number]
  rw [decodeApplicationTag, Tag.decode_append meaningful (encode_application type fits)]
  show (DataType.ofNumber type.number >>= _) = _
  rw [known]
  rfl

theorem content_append (octets inside rest : Octets) :
    content (octets ++ (inside ++ rest)) octets.length inside.length = .ok inside := by
  rw [content, List.drop_left, Octets.take?_append]

variable [TextCodec]

/-- The element behind an application tag is read from its content, whatever follows it. -/
theorem Value.decode_encodeApplication_append {type : DataType} (plain : type ≠ .boolean)
    {octets : Octets} (fits : octets.length < 0x100000000) {value : Value}
    (reads : ofContent type octets = .ok value) (rest : Octets) :
    decode (encodeApplication type octets ++ rest) =
      .ok (value, (encodeApplication type octets).length) := by
  rw [encodeApplication, List.append_assoc, decode,
    decodeApplicationTag_append fits fun boolean => absurd boolean plain]
  simp only [bind, Except.bind]
  rw [if_neg plain, content_append]
  simp only [reads, List.length_append]

end BACnet
