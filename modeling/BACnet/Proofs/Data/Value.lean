import BACnet.Data.Buffer
import BACnet.Proofs.Data.BitString
import BACnet.Proofs.Data.CharacterString
import BACnet.Proofs.Data.Header
import BACnet.Proofs.Data.Integer
import BACnet.Text.Chart

/-!
# Reading values

A value that a content can hold (`Value.Portable`) is read back from its content
(`Value.Portable.exists_content`), and so from behind its application tag or a context tag, whatever
follows it. Values that are written one behind the other are then read back one at a time
(`decodeSeries_append`).
-/

namespace BACnet

namespace ObjectIdentifier

/-- Both parts of the identifier fit their fields. -/
def Fits (identifier : ObjectIdentifier) : Prop :=
  identifier.objectType.toNat ≤ maxObjectType ∧ identifier.number.toNat ≤ maxNumber

theorem Fits.ofWord_toWord {identifier : ObjectIdentifier} (fits : identifier.Fits) :
    ofWord identifier.toWord = identifier := by
  obtain ⟨objectType, number⟩ := identifier
  obtain ⟨typeFits, numberFits⟩ := fits
  unfold maxObjectType at typeFits
  unfold maxNumber at numberFits
  dsimp only at typeFits numberFits
  have word : (toWord ⟨objectType, number⟩).toNat = objectType.toNat * 0x400000 + number.toNat := by
    rw [toWord, UInt32.toNat_ofNat']
    dsimp only
    omega
  have upper : (objectType.toNat * 0x400000 + number.toNat) / 0x400000 = objectType.toNat := by
    omega
  have lower : (objectType.toNat * 0x400000 + number.toNat) % 0x400000 = number.toNat := by
    omega
  rw [ofWord, word, upper, lower, UInt16.ofNat_toNat, UInt32.ofNat_toNat]

end ObjectIdentifier

/-! ## Tags in a buffer -/

theorem Writing.run_bind_of_ok {α β : Type} {first : Writing α} {result : α}
    {buffer behind : Octets} (ends : first.run buffer = .ok result behind)
    (second : α → Writing β) : (first >>= second).run buffer = (second result).run behind := by
  change first buffer = _ at ends
  show EStateM.bind first second buffer = _
  rw [EStateM.bind, ends]
  rfl

/-- A tag that can be written is appended to what the buffer holds. -/
theorem Tag.write_of_encode {tag : Tag} {octets : Octets} (encodes : tag.encode = .ok octets)
    (buffer : Octets) : tag.write.run buffer = .ok () (buffer ++ octets) := by
  unfold encode at encodes
  split at encodes
  · cases encodes
  · next writable =>
    obtain ⟨length, told, encodes⟩ := exists_of_bind_eq_ok encodes
    cases encodes
    unfold write
    rw [if_neg writable, told, ← List.append_assoc]
    rfl

namespace Value

/-! ## Contents -/

/-- The content octets can hold the value. -/
def Representable : Value → Prop
  | characterString string => string.Representable
  | bitString string => string.Built
  | objectIdentifier identifier => identifier.Fits
  | _ => True

/-- A context tag is read back by one who looks for its number, whatever follows it. -/
theorem decodeContextTag_append {number : UInt8} {length : Nat} {octets : Octets}
    (encodes : (Tag.context number length).encode = .ok octets) (rest : Octets) :
    decodeContextTag (octets ++ rest) number = .ok (length, octets.length) := by
  have meaningful : (Tag.context number length).Meaningful := fun application => nomatch application
  have wanted : (Tag.context number length).isContext number = true := beq_self_eq_true number
  rw [decodeContextTag, Tag.decode_append meaningful encodes]
  show (if _ then _ else _) = _
  rw [if_pos wanted]
  rfl

section

variable [TextCodec]

/-- The value can be carried: content octets hold it, and a tag can tell how many they are. -/
structure Portable (value : Value) : Prop where
  representable : value.Representable
  short : ∀ octets, value.content = .ok octets → octets.length < 0x100000000

theorem Portable.of_content {value : Value} (representable : value.Representable) {octets : Octets}
    (written : value.content = .ok octets) (short : octets.length < 0x100000000) :
    value.Portable := by
  refine ⟨representable, fun content same => ?_⟩
  cases written.symm.trans same
  exact short

/-- A value is read back from its content. -/
theorem Representable.exists_content {value : Value} (representable : value.Representable) :
    ∃ octets, value.content = .ok octets ∧ ofContent value.dataType octets = .ok value := by
  cases value with
  | null => exact ⟨_, rfl, rfl⟩
  | boolean value => cases value <;> exact ⟨_, rfl, rfl⟩
  | unsigned value =>
    exact ⟨_, rfl, congrArg (unsigned <$> ·) (decodeUnsignedContent_unsignedContent value)⟩
  | signed value =>
    exact ⟨_, rfl, congrArg (signed <$> ·) (decodeSignedContent_signedContent value)⟩
  | real bits =>
    obtain ⟨a, b, c, d, octets, spells⟩ := Octets.exists_ofWord32 bits
    refine ⟨_, rfl, ?_⟩
    rw [octets]
    exact congrArg (fun bits => Except.ok (real bits)) spells
  | double bits =>
    refine ⟨_, rfl, ?_⟩
    have eight : (Octets.ofWord64 bits).length = 8 := Octets.length_bigEndian _ _
    show double <$> decodeDoubleContent (Octets.ofWord64 bits) = _
    rw [decodeDoubleContent, if_pos eight, Octets.ofBigEndian_ofWord64, UInt64.ofNat_toNat]
    rfl
  | octetString octets => exact ⟨_, rfl, rfl⟩
  | characterString string =>
    obtain ⟨octets, written, read⟩ := CharacterString.Representable.exists_content representable
    exact ⟨octets, written, congrArg (characterString <$> ·) read⟩
  | bitString string =>
    exact ⟨_, rfl, congrArg (bitString <$> ·) (BitString.Built.decodeContent representable)⟩
  | enumerated value =>
    exact ⟨_, rfl, congrArg (enumerated <$> ·) (decodeEnumeratedContent_enumeratedContent value)⟩
  | date day => exact ⟨_, rfl, rfl⟩
  | time reading => exact ⟨_, rfl, rfl⟩
  | objectIdentifier identifier =>
    obtain ⟨a, b, c, d, octets, spells⟩ := Octets.exists_ofWord32 identifier.toWord
    refine ⟨_, rfl, ?_⟩
    rw [ObjectIdentifier.content, octets]
    show Except.ok (objectIdentifier (ObjectIdentifier.ofWord (Octets.word32 a b c d))) = _
    rw [spells, ObjectIdentifier.Fits.ofWord_toWord representable]

/-! ## Elements -/

/-- A boolean is carried by its tag alone. Every other value has its content behind the tag. -/
theorem eq_boolean_or (value : Value) :
    (∃ holds, value = boolean holds) ∨
      value.dataType ≠ .boolean ∧
      value.encode = (do .ok (encodeApplication value.dataType (← value.content))) ∧
      value.write = (do
        let octets ← Writing.lift value.content
        Writing.put (encodeApplicationTag value.dataType octets.length)
        Writing.put octets) := by
  cases value with
  | boolean holds => exact .inl ⟨holds, rfl⟩
  | _ => exact .inr ⟨nofun, rfl, rfl⟩

/-- A value is read back from behind its application tag, whatever follows it. -/
theorem Portable.exists_encode {value : Value} (portable : value.Portable) :
    ∃ octets, value.encode = .ok octets ∧
      ∀ rest, decode (octets ++ rest) = .ok (value, octets.length) := by
  obtain ⟨holds, rfl⟩ | ⟨plain, encodes, -⟩ := eq_boolean_or value
  · refine ⟨_, rfl, fun rest => ?_⟩
    rw [decode, decodeApplicationTag_append (by cases holds <;> decide)
      (by cases holds <;> decide)]
    cases holds <;> rfl
  · obtain ⟨content, written, read⟩ := portable.representable.exists_content
    refine ⟨encodeApplication value.dataType content, ?_,
      decode_encodeApplication_append plain (portable.short _ written) read⟩
    rw [encodes, written]
    rfl

/-- A value is read back from behind a context tag, whatever follows it. -/
theorem Portable.exists_encodeContext {value : Value} (portable : value.Portable) {number : UInt8}
    (writable : number ≠ 255) :
    ∃ octets, value.encodeContext number = .ok octets ∧
      ∀ rest, decodeContext (octets ++ rest) number value.dataType =
        .ok (value, octets.length) := by
  obtain ⟨content, written, read⟩ := portable.representable.exists_content
  obtain ⟨length, told⟩ := Tag.exists_tail number .context (portable.short _ written)
  obtain ⟨tag, encodes⟩ : ∃ octets, (Tag.context number content.length).encode = .ok octets :=
    ⟨_, Tag.encode_of_tail writable told⟩
  refine ⟨tag ++ content, ?_, fun rest => ?_⟩
  · rw [encodeContext, written]
    show (Tag.encode (.context number content.length) >>= _) = _
    rw [encodes]
    rfl
  · rw [List.append_assoc, decodeContext, decodeContextTag_append encodes]
    simp only [bind, Except.bind]
    rw [content_append]
    simp only [read, List.length_append]

/-! ## Writing into a buffer -/

/-- What a value is encoded to is what it appends to a buffer. -/
theorem write_of_encode {value : Value} {octets : Octets} (encodes : value.encode = .ok octets)
    (buffer : Octets) : value.write.run buffer = .ok () (buffer ++ octets) := by
  obtain ⟨holds, rfl⟩ | ⟨-, whole, writes⟩ := eq_boolean_or value
  · cases encodes
    rfl
  · rw [whole] at encodes
    obtain ⟨content, written, encodes⟩ := exists_of_bind_eq_ok encodes
    cases encodes
    rw [writes, written, encodeApplication, ← List.append_assoc]
    rfl

theorem writeContext_of_encodeContext {value : Value} {number : UInt8} {octets : Octets}
    (encodes : value.encodeContext number = .ok octets) (buffer : Octets) :
    (value.writeContext number).run buffer = .ok () (buffer ++ octets) := by
  obtain ⟨content, written, encodes⟩ := exists_of_bind_eq_ok encodes
  obtain ⟨tag, head, encodes⟩ := exists_of_bind_eq_ok encodes
  cases encodes
  unfold writeContext
  rw [written, ← List.append_assoc]
  exact Writing.run_bind_of_ok (Tag.write_of_encode head buffer) _

/-- Behind the tag number 255 nothing is written at all. -/
theorem writeContext_reserved (value : Value) (buffer : Octets) :
    ∃ error, value.encodeContext 255 = .error error ∧
      (value.writeContext 255).run buffer = .error error buffer ∧
      (value.Representable → error = .valueOutOfRange .tagNumber) := by
  unfold encodeContext writeContext
  cases written : value.content with
  | error error =>
    refine ⟨error, rfl, rfl, fun representable => ?_⟩
    obtain ⟨octets, content, -⟩ := representable.exists_content
    cases written.symm.trans content
  | ok content => exact ⟨_, rfl, rfl, fun _ => rfl⟩

end

/-! ## Series -/

/-- Reads one value after the other, each in its own way: the values, and the number of octets that
they take. -/
def decodeSeries : List (Octets → Except DataError (Value × Nat)) → Octets →
    Except DataError (List Value × Nat)
  | [], _ => .ok ([], 0)
  | read :: others, data => do
    let (value, used) ← read data
    let (values, more) ← decodeSeries others (data.drop used)
    .ok (value :: values, used + more)

variable {α : Type} {elements : List α}

/-- If each element is read back from what was written, whatever follows it, then so is a series of
elements. -/
theorem decodeSeries_append (encoder : α → Except DataError Octets)
    (decoder : α → Octets → Except DataError (Value × Nat)) (value : α → Value)
    (each : ∀ element ∈ elements, ∃ octets, encoder element = .ok octets ∧
      ∀ rest, decoder element (octets ++ rest) = .ok (value element, octets.length)) :
    ∃ pieces, elements.mapM encoder = .ok pieces ∧ ∀ rest,
      decodeSeries (elements.map decoder) (pieces.flatten ++ rest) =
        .ok (elements.map value, pieces.flatten.length) := by
  induction elements with
  | nil => exact ⟨[], rfl, fun rest => rfl⟩
  | cons first others ih =>
    obtain ⟨here, there⟩ := List.forall_mem_cons.mp each
    obtain ⟨octets, written, reads⟩ := here
    obtain ⟨pieces, others, series⟩ := ih there
    refine ⟨octets :: pieces, ?_, fun rest => ?_⟩
    · rw [List.mapM_cons, written, others]
      rfl
    · rw [List.map_cons, List.flatten_cons, List.append_assoc, decodeSeries, reads]
      simp only [bind, Except.bind]
      rw [List.drop_left, series, List.length_append]
      rfl

/-- What a series of elements is encoded to is what it appends to a buffer. -/
theorem forM_of_mapM {encoder : α → Except DataError Octets} {append : α → Writing Unit}
    (each : ∀ {element octets}, encoder element = .ok octets → ∀ buffer,
      (append element).run buffer = .ok () (buffer ++ octets))
    {pieces : List Octets} (encodes : elements.mapM encoder = .ok pieces)
    (buffer : Octets) : (elements.forM append).run buffer = .ok () (buffer ++ pieces.flatten) := by
  induction elements generalizing pieces buffer with
  | nil =>
    cases encodes
    exact congrArg (EStateM.Result.ok ()) (List.append_nil buffer).symm
  | cons first others ih =>
    rw [List.mapM_cons] at encodes
    obtain ⟨octets, written, encodes⟩ := exists_of_bind_eq_ok encodes
    obtain ⟨rest, more, whole⟩ := exists_of_bind_eq_ok encodes
    cases whole
    rw [List.forM_eq_forM, List.forM_cons, Writing.run_bind_of_ok (each written buffer),
      ← List.forM_eq_forM, ih more, List.flatten_cons, List.append_assoc]

section

variable [TextCodec]

/-- Values that are written one behind the other, behind application tags or behind context tags,
are read back one at a time, and the octets behind the last of them are left. The tag number 255 is
refused, and nothing is written behind it. -/
theorem series_read_back :
    (∀ values : List Value, (∀ value ∈ values, value.Portable) →
      ∃ pieces, values.mapM encode = .ok pieces ∧
        (∀ buffer, (values.forM write).run buffer = .ok () (buffer ++ pieces.flatten)) ∧
        ∀ rest, decodeSeries (values.map fun _ => decode) (pieces.flatten ++ rest) =
          .ok (values, pieces.flatten.length)) ∧
    (∀ fields : List (UInt8 × Value), (∀ field ∈ fields, field.1 ≤ 254 ∧ field.2.Portable) →
      ∃ pieces, fields.mapM (fun field => encodeContext field.1 field.2) = .ok pieces ∧
        (∀ buffer, (fields.forM fun field => writeContext field.1 field.2).run buffer =
          .ok () (buffer ++ pieces.flatten)) ∧
        ∀ rest, decodeSeries
            (fields.map fun field data => decodeContext data field.1 field.2.dataType)
            (pieces.flatten ++ rest) =
          .ok (fields.map (·.2), pieces.flatten.length)) ∧
    ∀ (value : Value) (buffer : Octets), ∃ error, value.encodeContext 255 = .error error ∧
      (value.writeContext 255).run buffer = .error error buffer ∧
      (value.Portable → error = .valueOutOfRange .tagNumber) := by
  refine ⟨fun values portable => ?_, fun fields proper => ?_, fun value buffer => ?_⟩
  · obtain ⟨pieces, encodes, reads⟩ := decodeSeries_append encode (fun _ => decode) id
      fun value member => (portable value member).exists_encode
    rw [List.map_id] at reads
    exact ⟨pieces, encodes, forM_of_mapM write_of_encode encodes, reads⟩
  · have each (field : UInt8 × Value) (member : field ∈ fields) :=
      have ⟨writable, portable⟩ := proper field member
      portable.exists_encodeContext (UInt8.ne_of_lt (UInt8.lt_of_le_of_lt writable (by decide)))
    obtain ⟨pieces, encodes, reads⟩ := decodeSeries_append
      (fun field : UInt8 × Value => encodeContext field.1 field.2)
      (fun field data => decodeContext data field.1 field.2.dataType) (fun field => field.2) each
    exact ⟨pieces, encodes, forM_of_mapM writeContext_of_encodeContext encodes, reads⟩
  · obtain ⟨error, refused, nothing, reserved⟩ := writeContext_reserved value buffer
    exact ⟨error, refused, nothing, fun portable => reserved portable.representable⟩

end

open scoped Chart

/-- A truth value, numbers at the ends of their ranges, a text, bits, and the last object name,
behind application tags and behind the last context tag. -/
theorem series_read_back_of_seven :
    let values := [boolean true, unsigned 0xFFFFFFFFFFFFFFFF, signed Int64.minValue,
      real 0x7FA00001, characterString ⟨.ucs2, "°C"⟩, bitString ⟨5, [0xA0]⟩,
      objectIdentifier ⟨1023, 4194303⟩]
    (∃ pieces, values.mapM encode = .ok pieces ∧ ∀ rest,
        decodeSeries (values.map fun _ => decode) (pieces.flatten ++ rest) =
          .ok (values, pieces.flatten.length)) ∧
      ∃ pieces, values.mapM (encodeContext 254) = .ok pieces ∧ ∀ rest,
        decodeSeries (values.map fun value data => decodeContext data 254 value.dataType)
            (pieces.flatten ++ rest) =
          .ok (values, pieces.flatten.length) := by
  intro values
  have narrow : ∀ c ∈ "°C".toList, c.toNat ≤ 0xFFFF := by simp
  have fits : (ObjectIdentifier.mk 1023 4194303).Fits := ⟨by decide, by decide⟩
  have portable : ∀ value ∈ values, value.Portable := by
    simp only [values, List.forall_mem_cons]
    exact ⟨.of_content trivial rfl (by decide), .of_content trivial rfl (by decide),
      .of_content trivial rfl (by decide), .of_content trivial rfl (by decide),
      .of_content narrow rfl (by decide), .of_content (.inr ⟨5, [0xA0], rfl⟩) rfl (by decide),
      .of_content fits rfl (by decide), nofun⟩
  obtain ⟨applications, contexts, -⟩ := series_read_back
  obtain ⟨pieces, encodes, -, reads⟩ := applications values portable
  refine ⟨⟨pieces, encodes, reads⟩, ?_⟩
  have proper : ∀ field ∈ values.map fun value => ((254 : UInt8), value),
      field.1 ≤ 254 ∧ field.2.Portable := by
    intro field member
    obtain ⟨value, among, rfl⟩ := List.mem_map.mp member
    exact ⟨UInt8.le_refl 254, portable value among⟩
  obtain ⟨pieces, encodes, -, reads⟩ := contexts _ proper
  exact ⟨pieces, encodes, reads⟩

end Value

end BACnet
