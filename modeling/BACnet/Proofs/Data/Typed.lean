import BACnet.Data.Typed
import BACnet.Proofs.Octets.Reading

/-!
# Elements of an expected type

The decoder of one type and the decoder of all types look at the same tag and then at the same
content, but check lengths in different places: one may compare the length in the tag with the one
that its type fixes before the content is looked for, the other counts the octets of the content.
They refuse some octets for different reasons, but they never disagree on whether to refuse
(`bind_checkLength_eq_ok_iff`), nor on what they read (`typed_agree`).
-/

namespace BACnet

variable {α : Type} {readContent : Octets → Except DataError α}

section

variable [TextCodec]

/-- The decoder reads what the decoder of all values reads if it reads a value of this form, and
reads nothing else. -/
def Agrees (decode : ElementDecoder α) (form : α → Value) : Prop :=
  ∀ data read used, decode data = .ok (read, used) ↔ Value.decode data = .ok (form read, used)

/-- Behind a context tag the decoder reads what the decoder of all values of the type reads. -/
def AgreesBehind (decode : UInt8 → ElementDecoder α) (type : DataType) (form : α → Value) : Prop :=
  ∀ number data read used, decode number data = .ok (read, used) ↔
    Value.decodeContext data number type = .ok (form read, used)

end

/-! ## Lengths that are checked early -/

theorem length_of_content {data octets : Octets} {offset length : Nat}
    (taken : content data offset length = .ok octets) : octets.length = length := by
  unfold content at taken
  split at taken
  · next takes =>
    cases taken
    exact Octets.length_of_take? takes
  · cases taken

/-- A check of the length in the tag refuses no content that is not refused anyway. -/
theorem bind_checkLength_eq_ok_iff {expected : Nat}
    (fixed : ∀ {octets read}, readContent octets = .ok read → octets.length = expected)
    (kind : ContentKind) (data : Octets) (length used : Nat) (result : α × Nat) :
    (checkLength kind expected length >>= fun _ => decodeBehind readContent data length used) =
        .ok result ↔
      decodeBehind readContent data length used = .ok result := by
  unfold checkLength
  split
  · exact Iff.rfl
  · next other =>
    refine ⟨nofun, fun reads => ?_⟩
    obtain ⟨octets, taken, reads⟩ := exists_of_bind_eq_ok reads
    obtain ⟨_, content, -⟩ := exists_of_bind_eq_ok reads
    exact absurd ((length_of_content taken).symm.trans (fixed content)) other

/-- A check of the length between the tag and the content makes no difference either. -/
theorem bind_bind_checkLength_eq_ok_iff {expected : Nat}
    (fixed : ∀ {octets read}, readContent octets = .ok read → octets.length = expected)
    (tag : Except DataError (Nat × Nat)) (kind : ContentKind) (data : Octets) (result : α × Nat) :
    (tag >>= fun (length, used) => do
        checkLength kind expected length
        decodeBehind readContent data length used) = .ok result ↔
      (tag >>= fun (length, used) => decodeBehind readContent data length used) = .ok result := by
  cases tag with
  | error error => exact Iff.rfl
  | ok tagged => exact bind_checkLength_eq_ok_iff fixed kind data tagged.1 tagged.2 result

theorem Value.length_of_decodeRealContent {octets : Octets} {bits : UInt32}
    (reads : Value.decodeRealContent octets = .ok bits) : octets.length = 4 := by
  unfold Value.decodeRealContent at reads
  split at reads
  · rfl
  · cases reads

theorem Value.length_of_decodeDoubleContent {octets : Octets} {bits : UInt64}
    (reads : Value.decodeDoubleContent octets = .ok bits) : octets.length = 8 := by
  unfold Value.decodeDoubleContent at reads
  split at reads
  · assumption
  · cases reads

theorem Value.length_of_decodeBooleanContent {octets : Octets} {truth : Bool}
    (reads : Value.decodeBooleanContent octets = .ok truth) : octets.length = 1 := by
  unfold Value.decodeBooleanContent at reads
  split at reads
  · rfl
  · cases reads

variable [TextCodec]

/-! ## Contents of one type -/

/-- What is read from the content of a type is a value of this type. -/
theorem Value.dataType_of_ofContent {type : DataType} {octets : Octets} {value : Value}
    (reads : Value.ofContent type octets = .ok value) : value.dataType = type := by
  cases type with
  | null =>
    unfold Value.ofContent at reads
    dsimp only at reads
    split at reads <;> cases reads
    rfl
  | octetString =>
    cases reads
    rfl
  | _ =>
    obtain ⟨read, -, rfl⟩ := exists_of_map_eq_ok reads
    rfl

/-- The tag tells of which type the value is. -/
theorem Value.dataType_of_decode {data : Octets} {type : DataType} {length head : Nat}
    (tagged : decodeApplicationTag data = .ok (type, length, head)) {value : Value} {used : Nat}
    (reads : Value.decode data = .ok (value, used)) : value.dataType = type := by
  rw [Value.decode, tagged] at reads
  change (if type = .boolean then _ else _) = _ at reads
  split at reads
  · next boolean =>
    cases reads
    exact boolean.symm
  · obtain ⟨octets, -, reads⟩ := exists_of_bind_eq_ok reads
    obtain ⟨value, content, reads⟩ := exists_of_bind_eq_ok reads
    cases reads
    exact Value.dataType_of_ofContent content

/-- The values of the type are those of this form, and their contents are read by `readContent`. -/
structure FormsType (type : DataType) (readContent : Octets → Except DataError α)
    (form : α → Value) : Prop where
  injective : ∀ {first second}, form first = form second → first = second
  dataType_eq : ∀ read, (form read).dataType = type
  ofContent_eq : ∀ octets, Value.ofContent type octets = form <$> readContent octets

namespace FormsType

variable {type : DataType} {form : α → Value}

/-- What stands behind a tag is read in the same way for the one type as for all. -/
theorem decodeBehind_eq_ok_iff (forms : FormsType type readContent form) (data : Octets)
    (length used : Nat) (read : α) (taken : Nat) :
    decodeBehind readContent data length used = .ok (read, taken) ↔
      decodeBehind (Value.ofContent type) data length used = .ok (form read, taken) := by
  unfold decodeBehind
  cases content data used length with
  | error error => exact ⟨nofun, nofun⟩
  | ok octets =>
    show (readContent octets >>= _) = _ ↔ (Value.ofContent type octets >>= _) = _
    rw [forms.ofContent_eq]
    cases readContent octets with
    | error error => exact ⟨nofun, nofun⟩
    | ok found =>
      constructor
      · intro reads
        cases reads
        rfl
      · intro reads
        obtain ⟨same, size⟩ := Prod.mk.inj (Except.ok.inj reads)
        rw [forms.injective same, size]
        rfl

/-- A decoder of one type agrees with that of all if its tag has a content behind it. -/
theorem agrees (forms : FormsType type readContent form) (plain : type ≠ .boolean) :
    Agrees (decodeApplicationTyped type readContent) form := by
  intro data read used
  unfold decodeApplicationTyped expectApplication Value.decode
  cases tagged : decodeApplicationTag data with
  | error error => exact ⟨nofun, nofun⟩
  | ok found =>
    obtain ⟨found, length, head⟩ := found
    by_cases same : found = type
    · subst same
      show ((if found = found then Except.ok (length, head) else _) >>= fun _ => _) = _ ↔
        (if found = .boolean then _ else _) = _
      rw [if_pos rfl, if_neg plain]
      exact forms.decodeBehind_eq_ok_iff data length head read used
    · refine ⟨fun reads => ?_, fun reads => ?_⟩
      · change ((if found = type then _ else _) >>= fun _ => _) = _ at reads
        rw [if_neg same] at reads
        cases reads
      · -- the tag would have to announce the type of the value that is read
        have whole : Value.decode data = .ok (form read, used) := by
          rw [Value.decode, tagged]
          exact reads
        have announced := Value.dataType_of_decode tagged whole
        exact absurd (announced.symm.trans (forms.dataType_eq _)) same

/-- Behind a context tag the decoders agree as well. -/
theorem agreesBehind (forms : FormsType type readContent form) :
    AgreesBehind (decodeContextTyped readContent) type form := by
  intro number data read used
  unfold decodeContextTyped Value.decodeContext
  cases decodeContextTag data number with
  | error error => exact ⟨nofun, nofun⟩
  | ok tagged => exact forms.decodeBehind_eq_ok_iff data tagged.1 tagged.2 read used

end FormsType

/-! ## Types that differ from the others -/

/-- The tag of a boolean is all there is to read. -/
theorem agrees_decodeBoolean : Agrees decodeBoolean .boolean := by
  intro data read used
  cases tagged : decodeApplicationTag data with
  | error error =>
    unfold decodeBoolean expectApplication Value.decode
    rw [tagged]
    exact ⟨nofun, nofun⟩
  | ok found =>
    obtain ⟨found, length, head⟩ := found
    by_cases boolean : found = .boolean
    · subst boolean
      unfold decodeBoolean expectApplication Value.decode
      rw [tagged]
      constructor
      · intro reads
        cases reads
        rfl
      · intro reads
        cases reads
        rfl
    · refine ⟨fun reads => ?_, fun reads => ?_⟩
      · unfold decodeBoolean expectApplication at reads
        rw [tagged] at reads
        change ((if found = .boolean then _ else _) >>= fun _ => _) = _ at reads
        rw [if_neg boolean] at reads
        cases reads
      · exact absurd (Value.dataType_of_decode tagged reads).symm boolean

theorem agrees_decodeReal : Agrees decodeReal .real := by
  have forms : FormsType .real Value.decodeRealContent .real :=
    ⟨Value.real.inj, fun _ => rfl, fun _ => rfl⟩
  intro data read used
  exact (bind_bind_checkLength_eq_ok_iff Value.length_of_decodeRealContent _ _ data _).trans
    (forms.agrees nofun data read used)

theorem agrees_decodeDouble : Agrees decodeDouble .double := by
  have forms : FormsType .double Value.decodeDoubleContent .double :=
    ⟨Value.double.inj, fun _ => rfl, fun _ => rfl⟩
  intro data read used
  exact (bind_bind_checkLength_eq_ok_iff Value.length_of_decodeDoubleContent _ _ data _).trans
    (forms.agrees nofun data read used)

theorem agreesBehind_decodeContextBoolean :
    AgreesBehind decodeContextBoolean .boolean .boolean := by
  have forms : FormsType .boolean Value.decodeBooleanContent .boolean :=
    ⟨Value.boolean.inj, fun _ => rfl, fun _ => rfl⟩
  intro number data read used
  exact (bind_bind_checkLength_eq_ok_iff Value.length_of_decodeBooleanContent _ _ data _).trans
    (forms.agreesBehind number data read used)

/-! ## Encoders -/

/-- The encoders of the types write what the encoder of all values writes. -/
theorem encodeTyped_eq (value : Value) : encodeTyped value = value.encode := by
  cases value with
  | characterString string =>
    show encodeApplication .characterString <$> string.content =
      (string.content >>= fun octets => .ok (encodeApplication .characterString octets))
    cases string.content <;> rfl
  | _ => rfl

/-! ## Agreement -/

/-- For each type, the decoder of the type reads a value and a number of octets if and only if the
decoder of all values reads this value, of this type, and the same number of octets: behind
application tags and behind context tags of any number. The encoders write the same octets, or fail
with the same error. -/
theorem typed_agree :
    (Agrees decodeBoolean .boolean ∧ Agrees decodeUnsigned .unsigned ∧
      Agrees decodeSigned .signed ∧ Agrees decodeReal .real ∧ Agrees decodeDouble .double ∧
      Agrees decodeOctetString .octetString ∧ Agrees decodeCharacterString .characterString ∧
      Agrees decodeBitString .bitString ∧ Agrees decodeEnumerated .enumerated ∧
      Agrees decodeDate .date ∧ Agrees decodeTime .time ∧
      Agrees decodeObjectIdentifier .objectIdentifier) ∧
    (AgreesBehind decodeContextUnsigned .unsigned .unsigned ∧
      AgreesBehind decodeContextEnumerated .enumerated .enumerated ∧
      AgreesBehind decodeContextBoolean .boolean .boolean ∧
      AgreesBehind decodeContextObjectIdentifier .objectIdentifier .objectIdentifier ∧
      AgreesBehind decodeContextCharacterString .characterString .characterString) ∧
    (∀ value, encodeTyped value = value.encode) ∧
    ∀ number,
      (∀ value, encodeContextUnsigned number value = (Value.unsigned value).encodeContext number) ∧
      (∀ value,
        encodeContextEnumerated number value = (Value.enumerated value).encodeContext number) ∧
      (∀ value, encodeContextBoolean number value = (Value.boolean value).encodeContext number) ∧
      (∀ value, encodeContextObjectIdentifier number value =
        (Value.objectIdentifier value).encodeContext number) ∧
      ∀ value, encodeContextCharacterString number value =
        (Value.characterString value).encodeContext number := by
  have unsigned : FormsType .unsigned decodeUnsignedContent .unsigned :=
    ⟨Value.unsigned.inj, fun _ => rfl, fun _ => rfl⟩
  have signed : FormsType .signed decodeSignedContent .signed :=
    ⟨Value.signed.inj, fun _ => rfl, fun _ => rfl⟩
  have octetString : FormsType .octetString .ok .octetString :=
    ⟨Value.octetString.inj, fun _ => rfl, fun _ => rfl⟩
  have characterString :
      FormsType .characterString CharacterString.decodeContent .characterString :=
    ⟨Value.characterString.inj, fun _ => rfl, fun _ => rfl⟩
  have bitString : FormsType .bitString BitString.decodeContent .bitString :=
    ⟨Value.bitString.inj, fun _ => rfl, fun _ => rfl⟩
  have enumerated : FormsType .enumerated decodeEnumeratedContent .enumerated :=
    ⟨Value.enumerated.inj, fun _ => rfl, fun _ => rfl⟩
  have date : FormsType .date Date.decodeContent .date :=
    ⟨Value.date.inj, fun _ => rfl, fun _ => rfl⟩
  have time : FormsType .time TimeOfDay.decodeContent .time :=
    ⟨Value.time.inj, fun _ => rfl, fun _ => rfl⟩
  have objectIdentifier :
      FormsType .objectIdentifier ObjectIdentifier.decodeContent .objectIdentifier :=
    ⟨Value.objectIdentifier.inj, fun _ => rfl, fun _ => rfl⟩
  refine ⟨?_, ?_, encodeTyped_eq,
    fun number => ⟨fun _ => rfl, fun _ => rfl, fun _ => rfl, fun _ => rfl, fun _ => rfl⟩⟩
  · exact ⟨agrees_decodeBoolean, unsigned.agrees nofun, signed.agrees nofun, agrees_decodeReal,
      agrees_decodeDouble, octetString.agrees nofun, characterString.agrees nofun,
      bitString.agrees nofun, enumerated.agrees nofun, date.agrees nofun, time.agrees nofun,
      objectIdentifier.agrees nofun⟩
  · exact ⟨unsigned.agreesBehind, enumerated.agreesBehind, agreesBehind_decodeContextBoolean,
      objectIdentifier.agreesBehind, characterString.agreesBehind⟩

/-- A real of three octets, of which none is there: both decoders refuse it, but for different
reasons. -/
example : decodeReal [0x43] = .error (.invalidLength .real 3) ∧
    Value.decode [0x43] = .error (.unexpectedEndOfData 4 1) := ⟨rfl, rfl⟩

end BACnet
