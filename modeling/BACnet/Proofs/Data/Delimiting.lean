import BACnet.Proofs.Data.Faults
import BACnet.Proofs.Data.Header
import BACnet.Text.Chart

/-!
# Elements end where they say

What is read at the head of some octets is decided by the octets that it takes
(`DecidedByFront`): octets behind them change nothing. None of them can be missing either. For if
fewer of them could be read as another element, then by the same rule that element would have been
read from all of them. So tags and values are self-delimiting (`Value.selfDelimiting`), in their
shortest forms and in the longer ones that are also read.
-/

namespace BACnet

variable {α : Type} {read : Octets → Except DataError (α × Nat)}

/-- What is read is decided by the octets that it takes, which stand in front of all others. -/
def DecidedByFront (read : Octets → Except DataError (α × Nat)) : Prop :=
  ∀ {data value used}, read data = .ok (value, used) →
    ∃ front behind, data = front ++ behind ∧ front.length = used ∧
      ∀ other, read (front ++ other) = .ok (value, used)

/-- What is read ends where it says: all octets that begin with those that it takes are read in the
same way, and if only some of these are there then they are refused as malformed. -/
def SelfDelimiting (read : Octets → Except DataError (α × Nat)) : Prop :=
  ∀ data value used, read data = .ok (value, used) →
    used ≤ data.length ∧
    (∀ other, data.take used <+: other → read other = .ok (value, used)) ∧
    ∀ cut, cut <+: data.take used → cut.length < used →
      ∃ error, read cut = .error error ∧ error.kind = .malformedPdu

theorem SelfDelimiting.of_front (decided : DecidedByFront read)
    (malformed : ∀ data, Malformed (read data)) : SelfDelimiting read := by
  intro data value used reads
  obtain ⟨front, behind, rfl, rfl, decides⟩ := decided reads
  rw [List.take_left]
  refine ⟨by simp, ?_, ?_⟩
  · rintro _ ⟨rest, rfl⟩
    exact decides rest
  · rintro cut ⟨rest, rfl⟩ shorter
    cases result : read cut with
    | error error => exact ⟨error, rfl, malformed cut error result⟩
    | ok found =>
      -- what the cut octets are read as is also read from all of them, so they cannot be fewer
      obtain ⟨another, taken⟩ := found
      obtain ⟨inner, left, rfl, rfl, agrees⟩ := decided result
      have whole := decides []
      rw [List.append_nil, List.append_assoc, agrees] at whole
      have size := congrArg Prod.snd (Except.ok.inj whole)
      simp only [List.length_append] at size shorter
      omega

/-! ## Tags -/

theorem Tag.decidedByFront : DecidedByFront Tag.decode := by
  intro data tag used reads
  obtain ⟨front, behind, whole, size, -, decides⟩ := exists_front_of_decode reads
  exact ⟨front, behind, whole, size, decides⟩

theorem exists_front_of_decodeApplicationTag {data : Octets} {type : DataType} {length used : Nat}
    (reads : decodeApplicationTag data = .ok (type, length, used)) :
    ∃ front behind, data = front ++ behind ∧ front.length = used ∧
      ∀ other, decodeApplicationTag (front ++ other) = .ok (type, length, used) := by
  obtain ⟨⟨tag, taken⟩, tagged, announced⟩ := exists_of_bind_eq_ok reads
  obtain ⟨front, behind, whole, size, decides⟩ := Tag.decidedByFront tagged
  have same : taken = used := by
    dsimp only at announced
    split at announced
    · obtain ⟨_, -, announced⟩ := exists_of_bind_eq_ok announced
      cases announced
      rfl
    · cases announced
  refine ⟨front, behind, whole, size.trans same, fun other => ?_⟩
  rw [decodeApplicationTag, decides]
  exact announced

theorem decidedByFront_decodeContextTag (number : UInt8) :
    DecidedByFront fun data => decodeContextTag data number := by
  intro data length used reads
  obtain ⟨⟨tag, taken⟩, tagged, announced⟩ := exists_of_bind_eq_ok reads
  obtain ⟨front, behind, whole, size, decides⟩ := Tag.decidedByFront tagged
  have same : taken = used := by
    dsimp only at announced
    split at announced <;> cases announced
    rfl
  refine ⟨front, behind, whole, size.trans same, fun other => ?_⟩
  dsimp only
  rw [decodeContextTag, decides]
  exact announced

/-! ## Values -/

namespace Value

section

variable [TextCodec]

/-- Reads the value whose `length` content octets stand behind a tag of `used` octets. -/
def decodeBehind (data : Octets) (type : DataType) (length used : Nat) :
    Except DataError (Value × Nat) := do
  let octets ← BACnet.content data used length
  .ok (← ofContent type octets, used + length)

theorem exists_front_of_decodeBehind {tag behind : Octets} {type : DataType} {length used : Nat}
    {value : Value}
    (reads : decodeBehind (tag ++ behind) type length tag.length = .ok (value, used)) :
    ∃ inside rest, behind = inside ++ rest ∧ (tag ++ inside).length = used ∧
      ∀ other, decodeBehind (tag ++ (inside ++ other)) type length tag.length =
        .ok (value, used) := by
  obtain ⟨inside, taken, reads⟩ := exists_of_bind_eq_ok reads
  obtain ⟨_, content, reads⟩ := exists_of_bind_eq_ok reads
  cases reads
  unfold BACnet.content at taken
  rw [List.drop_left] at taken
  split at taken
  · next octets takes =>
    cases taken
    obtain ⟨rfl, whole⟩ := Octets.append_of_take? takes
    refine ⟨inside, _, whole, List.length_append, fun other => ?_⟩
    rw [decodeBehind, content_append]
    simp only [bind, Except.bind, content]
  · cases taken

theorem decidedByFront_decode : DecidedByFront decode := by
  intro data value used reads
  obtain ⟨⟨type, length, taken⟩, tagged, reads⟩ := exists_of_bind_eq_ok reads
  obtain ⟨tag, behind, rfl, rfl, decides⟩ := exists_front_of_decodeApplicationTag tagged
  dsimp only at reads
  split at reads
  · next boolean =>
    cases reads
    refine ⟨tag, behind, rfl, rfl, fun other => ?_⟩
    rw [decode, decides]
    exact if_pos boolean
  · next plain =>
    obtain ⟨inside, rest, rfl, size, again⟩ := exists_front_of_decodeBehind reads
    refine ⟨tag ++ inside, rest, (List.append_assoc _ _ _).symm, size, fun other => ?_⟩
    rw [List.append_assoc, decode, decides]
    exact (if_neg plain).trans (again other)

theorem decidedByFront_decodeContext (number : UInt8) (type : DataType) :
    DecidedByFront fun data => decodeContext data number type := by
  intro data value used reads
  obtain ⟨⟨length, taken⟩, tagged, reads⟩ := exists_of_bind_eq_ok reads
  obtain ⟨tag, behind, rfl, rfl, decides⟩ := decidedByFront_decodeContextTag number tagged
  obtain ⟨inside, rest, rfl, size, again⟩ := exists_front_of_decodeBehind reads
  refine ⟨tag ++ inside, rest, (List.append_assoc _ _ _).symm, size, fun other => ?_⟩
  dsimp only at decides ⊢
  rw [List.append_assoc, decodeContext, decides]
  exact again other

theorem selfDelimiting_decode : SelfDelimiting decode :=
  .of_front decidedByFront_decode malformed_decode

/-- Tags and values end where they say, values behind their application tags as well as those of
an expected type behind a context tag. -/
theorem selfDelimiting :
    SelfDelimiting Tag.decode ∧ SelfDelimiting decode ∧
      ∀ number type, SelfDelimiting fun data => decodeContext data number type :=
  ⟨.of_front Tag.decidedByFront Tag.malformed_decode, selfDelimiting_decode, fun number type =>
    .of_front (decidedByFront_decodeContext number type) fun data =>
      malformed_decodeContext data number type⟩

end

open scoped Chart

/-- The number 5 whose length follows the tag although it would fit the first octet. -/
theorem selfDelimiting_of_long_length :
    decode [0x25, 1, 5, 0x91] = .ok (unsigned 5, 3) ∧
      (∀ rest, decode ([0x25, 1, 5] ++ rest) = .ok (unsigned 5, 3)) ∧
      ∀ cut, cut <+: [0x25, 1, 5] → cut.length < 3 →
        ∃ error, decode cut = .error error ∧ error.kind = .malformedPdu :=
  have reads : decode [0x25, 1, 5, 0x91] = .ok (unsigned 5, 3) := rfl
  have ⟨_, longer, shorter⟩ := selfDelimiting.2.1 _ _ _ reads
  ⟨reads, fun rest => longer _ (List.prefix_append _ rest), shorter⟩

end Value

end BACnet
