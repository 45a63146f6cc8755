import BACnet.Proofs.Data.Header

/-!
# Shortest headers

The number and the length of a tag have several forms, and a reader takes a long form also where a
short one would do. The writer takes the shortest form of each: a number that was read takes no more
octets than it was found in (`Tag.head_of_decodeNumber`), and neither does a length
(`Tag.exists_encodeLength_of_decodeLength`). So there is no shorter header of a tag than the one
that is written (`Tag.shortest_header`).
-/

namespace BACnet

namespace Tag

/-- A header can carry the tag: its number is not the reserved one, the tag has a meaning, and the
length that it tells takes 32 bits at most. -/
structure Portable (tag : Tag) : Prop where
  number_le : tag.number ≤ 254
  meaningful : tag.Meaningful
  short : ∀ length, tag.kind = .value length → length < 0x100000000

theorem Portable.exists_encode {tag : Tag} (portable : tag.Portable) :
    ∃ octets, tag.encode = .ok octets ∧
      ∀ rest, decode (octets ++ rest) = .ok (tag, octets.length) := by
  obtain ⟨small, meaningful, short⟩ := portable
  have writable : tag.number ≠ 255 :=
    UInt8.ne_of_lt (UInt8.lt_of_le_of_lt small (by decide))
  have told : ∃ octets, tag.tail = .ok octets := by
    obtain ⟨number, tagClass, kind⟩ := tag
    cases kind with
    | value length => exact exists_tail number tagClass (short length rfl)
    | opening | closing => exact ⟨[], rfl⟩
  obtain ⟨octets, told⟩ := told
  have encodes := encode_of_tail writable told
  exact ⟨_, encodes, decode_append meaningful encodes⟩

/-! ## What a reader has met -/

/-- A number that is read is not the reserved one, and in front of its kind it takes no more octets
than it was found in. -/
theorem head_of_decodeNumber {first number : UInt8} {rest : Octets} {extended : Bool}
    (reads : decodeNumber first rest = .ok (number, extended)) (tagClass : TagClass)
    (kind : TagKind) :
    number ≠ 255 ∧ (head ⟨number, tagClass, kind⟩).length ≤ (if extended then 2 else 1) := by
  unfold decodeNumber at reads
  split at reads
  · split at reads
    · cases reads
    · split at reads
      · cases reads
      · next writable =>
        cases reads
        refine ⟨writable, ?_⟩
        unfold head
        dsimp only
        split
        · exact Nat.le_succ 1
        · exact Nat.le_refl 2
  · next inline =>
    cases reads
    have field : Octets.field first 4 4 < 16 := Nat.mod_lt _ (by decide)
    have small : (UInt8.ofNat (Octets.field first 4 4)).toNat < 15 := by
      rw [UInt8.toNat_ofNat']
      omega
    refine ⟨fun reserved => ?_, ?_⟩
    · rw [reserved] at small
      exact absurd small (by decide)
    · unfold head
      dsimp only
      rw [if_pos small]
      exact Nat.le_refl 1

/-- A length that follows the number takes five octets, three if it is a word, or one below 254. -/
theorem length_of_encodeLength {length : Nat} (fits : length < 0x100000000) :
    ∃ octets, encodeLength length = .ok octets ∧ octets.length ≤ 5 ∧
      (length < 0x10000 → octets.length ≤ 3) ∧ (length < 254 → octets.length ≤ 1) := by
  unfold encodeLength
  rw [if_pos fits]
  split
  · exact ⟨_, rfl, Nat.le_add_left 1 4, fun _ => Nat.le_add_left 1 2, fun _ => Nat.le_refl 1⟩
  · next noOctet =>
    split
    · exact ⟨_, rfl, Nat.le_add_left 3 2, fun _ => Nat.le_refl 3, fun octet => absurd octet noOctet⟩
    · next noWord =>
      exact ⟨_, rfl, Nat.le_refl 5, fun word => absurd word noWord,
        fun octet => absurd octet noOctet⟩

/-- A length that is read fits 32 bits, and takes no more octets than it was found in. -/
theorem exists_encodeLength_of_decodeLength {data : Octets} {length used : Nat}
    (reads : decodeLength data = some (length, used)) :
    length < 0x100000000 ∧
      ∃ octets, encodeLength length = .ok octets ∧ octets.length ≤ used := by
  have spelled (count : Nat) {rest taken : Octets} (takes : Octets.take? count rest = some taken) :
      Octets.ofBigEndian taken < 1 <<< (8 * count) := by
    rw [← Octets.length_of_take? takes]
    exact Octets.ofBigEndian_lt taken
  cases data with
  | nil => cases reads
  | cons marker rest =>
    change (if marker = 254 then _ else if marker = 255 then _ else _) = _ at reads
    split at reads
    · obtain ⟨taken, takes, result⟩ := Option.map_eq_some_iff.mp reads
      cases result
      have word : Octets.ofBigEndian taken < 0x10000 := spelled 2 takes
      have fits : Octets.ofBigEndian taken < 0x100000000 := by omega
      obtain ⟨octets, encodes, -, three, -⟩ := length_of_encodeLength fits
      exact ⟨fits, octets, encodes, three word⟩
    · next noWord =>
      split at reads
      · obtain ⟨taken, takes, result⟩ := Option.map_eq_some_iff.mp reads
        cases result
        have fits : Octets.ofBigEndian taken < 0x100000000 := spelled 4 takes
        obtain ⟨octets, encodes, five, -⟩ := length_of_encodeLength fits
        exact ⟨fits, octets, encodes, five⟩
      · next noLong =>
        cases reads
        have ordinary : marker.toNat < 254 := by
          have bounded := marker.toNat_lt
          have noWord : marker.toNat ≠ 254 := fun same => noWord (UInt8.toNat_inj.mp same)
          have noLong : marker.toNat ≠ 255 := fun same => noLong (UInt8.toNat_inj.mp same)
          omega
        have fits : marker.toNat < 0x100000000 := by omega
        obtain ⟨octets, encodes, -, -, one⟩ := length_of_encodeLength fits
        exact ⟨fits, octets, encodes, one ordinary⟩

/-- The octets behind the number tell a kind that only a context tag has, or a length that fits 32
bits; a length that is written behind the number takes no more octets than it was found in. -/
theorem tail_of_decodeKind {tagClass : TagClass} {number : UInt8} {field : Nat} {rest : Octets}
    {used available : Nat} {kind : TagKind} {more : Nat}
    (reads : decodeKind tagClass number field rest used available = .ok (kind, more)) :
    (tagClass = .application → ∃ length, kind = .value length) ∧
      (∀ length, kind = .value length → length < 0x100000000) ∧
      ∃ octets, tail ⟨number, tagClass, kind⟩ = .ok octets ∧ octets.length ≤ more := by
  unfold decodeKind at reads
  split at reads
  · split at reads
    · next length octets told =>
      cases reads
      obtain ⟨fits, shorter⟩ := exists_encodeLength_of_decodeLength told
      refine ⟨fun _ => ⟨length, rfl⟩, fun _ same => by cases same; exact fits, ?_⟩
      by_cases inline : length < 5
      · exact ⟨[], if_pos inline, Nat.zero_le _⟩
      · obtain ⟨octets, encodes, shorter⟩ := shorter
        exact ⟨octets, (if_neg inline).trans encodes, shorter⟩
    · cases reads
  · split at reads
    · next inline =>
      cases reads
      exact ⟨fun _ => ⟨field, rfl⟩, fun _ same => by cases same; omega, [], if_pos inline,
        Nat.le_refl 0⟩
    · cases tagClass with
      | application => cases reads
      | context =>
        cases reads
        by_cases opens : field = 6
        · rw [if_pos opens]
          exact ⟨nofun, nofun, [], rfl, Nat.le_refl 0⟩
        · rw [if_neg opens]
          exact ⟨nofun, nofun, [], rfl, Nat.le_refl 0⟩

theorem length_le_one_of_checkBoolean {number : UInt8} {length : Nat}
    (checked : checkBoolean ⟨number, .application, .value length⟩ = .ok ())
    (boolean : number = DataType.boolean.number) : length ≤ 1 := by
  refine Nat.le_of_not_lt fun long => ?_
  have refused : checkBoolean ⟨number, .application, .value length⟩ =
      .error (.invalidLength .applicationBoolean length) :=
    if_pos ⟨boolean, long⟩
  cases refused.symm.trans checked

/-- What is read can be written again, in no more octets. -/
theorem exists_encode_of_decode {data : Octets} {tag : Tag} {used : Nat}
    (reads : decode data = .ok (tag, used)) :
    tag.Portable ∧ ∃ octets, tag.encode = .ok octets ∧ octets.length ≤ used := by
  cases data with
  | nil => cases reads
  | cons first rest =>
    obtain ⟨⟨number, extended⟩, numbered, reads⟩ := exists_of_bind_eq_ok reads
    obtain ⟨⟨kind, more⟩, kinded, reads⟩ := exists_of_bind_eq_ok reads
    obtain ⟨_, checked, reads⟩ := exists_of_bind_eq_ok reads
    cases reads
    generalize (if Octets.bit first 3 then TagClass.context else .application) = tagClass
      at kinded checked ⊢
    obtain ⟨writable, front⟩ := head_of_decodeNumber numbered tagClass kind
    obtain ⟨primitive, short, octets, told, behind⟩ := tail_of_decodeKind kinded
    refine ⟨⟨?_, fun application => ?_, short⟩, _, encode_of_tail writable told, ?_⟩
    · have bounded := number.toNat_lt
      have other : number.toNat ≠ 255 := fun same => writable (UInt8.toNat_inj.mp same)
      exact UInt8.le_iff_toNat_le.mpr (by
        show number.toNat ≤ 254
        omega)
    · obtain ⟨length, rfl⟩ := primitive application
      obtain rfl : tagClass = .application := application
      exact ⟨length, rfl, length_le_one_of_checkBoolean checked⟩
    · rw [List.length_append]
      exact Nat.add_le_add front behind

/-- A tag is read back from its header, whatever follows, if and only if a header can carry it.
Whatever octets are read as a tag, the tag has a header of its own, which takes no more octets and
is read as the same tag. -/
theorem shortest_header :
    (∀ tag : Tag, tag.Portable ↔ ∃ octets, tag.encode = .ok octets ∧
      ∀ rest, decode (octets ++ rest) = .ok (tag, octets.length)) ∧
    ∀ data tag used, decode data = .ok (tag, used) → tag.Portable ∧
      ∃ octets, tag.encode = .ok octets ∧ octets.length ≤ used ∧
        decode octets = .ok (tag, octets.length) := by
  refine ⟨fun tag => ⟨fun portable => portable.exists_encode, ?_⟩, ?_⟩
  · rintro ⟨octets, -, reads⟩
    exact (exists_encode_of_decode (reads [])).1
  · intro data tag used reads
    obtain ⟨portable, octets, encodes, shorter⟩ := exists_encode_of_decode reads
    have again := decode_append portable.meaningful encodes []
    rw [List.append_nil] at again
    exact ⟨portable, octets, encodes, shorter, again⟩

/-- The context tag 3 in front of two octets, with its number and its length in their longest forms:
its own header takes one octet instead of seven. -/
theorem shortest_header_of_longest :
    decode [0xFD, 3, 255, 0, 0, 0, 2] = .ok (.context 3 2, 7) ∧
      (context 3 2).encode = .ok [0x3A] ∧
      ∀ rest, decode ([0x3A] ++ rest) = .ok (.context 3 2, 1) := by
  have reads : decode [0xFD, 3, 255, 0, 0, 0, 2] = .ok (.context 3 2, 7) := rfl
  obtain ⟨readBack, written⟩ := shortest_header
  obtain ⟨portable, -⟩ := written _ _ _ reads
  obtain ⟨octets, encodes, again⟩ := (readBack _).mp portable
  cases encodes
  exact ⟨reads, rfl, again⟩

end Tag

end BACnet
