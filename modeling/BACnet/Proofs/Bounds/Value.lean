import BACnet.Proofs.Bounds.Guarded
import BACnet.Proofs.Data.Header

/-!
# Bounds of the values

The decoders of tags, contents and values on a machine. Each of them does what its plain form does,
and so never goes out of bounds (`Guarded.decodeTag_eq`, `Guarded.decodeValue_eq` and others).
-/

namespace BACnet

namespace Guarded

/-! ## Tags -/

/-- Reads a length behind the first octets of a tag. -/
def decodeLength (data : Octets) : Guarded DataError (Nat × Nat) := do
  let marker ← orError (.unexpectedEndOfData 1 0) data[0]?
  if marker = 254 then
    let octets ← orError (.unexpectedEndOfData 3 data.length) (slice? data 1 3)
    let word := Octets.word16 (← octet octets 0) (← octet octets 1)
    pure (word.toNat, 3)
  else if marker = 255 then
    let octets ← orError (.unexpectedEndOfData 5 data.length) (slice? data 1 5)
    let word := Octets.word32 (← octet octets 0) (← octet octets 1) (← octet octets 2)
      (← octet octets 3)
    pure (word.toNat, 5)
  else pure (marker.toNat, 1)

/-- Reads the number of a tag behind its first octet, and how many octets are read by then. -/
def decodeNumber (first : UInt8) (data : Octets) : Guarded DataError (UInt8 × Nat) := do
  if Octets.field first 4 4 = 15 then
    let number ← orError (.unexpectedEndOfData (← plus 1 1) data.length) data[1]?
    if number = 255 then throw (.invalidTag .reservedNumber)
    pure (number, ← plus 1 1)
  else pure (UInt8.ofNat (Octets.field first 4 4), 1)

/-- Reads what the length/value/type field means, and how many octets are read by then. -/
def decodeKind (tagClass : TagClass) (number : UInt8) (field : Nat) (data : Octets)
    (consumed : Nat) : Guarded DataError (TagKind × Nat) := do
  if field = 5 then
    let rest ← sliceFrom data consumed
    let short := .unexpectedEndOfData (← plus consumed 1) data.length
    let (length, used) ← mapError (fun _ => short) (decodeLength rest)
    pure (.value length, ← plus consumed used)
  else if field < 5 then pure (.value field, consumed)
  else
    match tagClass with
    | .application => throw (.invalidTag (.lengthValueType number field))
    | .context => pure (if field = 6 then .opening else .closing, consumed)

/-- Reads the tag at the head of the octets. -/
def decodeTag (data : Octets) : Guarded DataError (Tag × Nat) := do
  let first ← orError (.unexpectedEndOfData 1 0) data[0]?
  let (number, consumed) ← decodeNumber first data
  let tagClass := if Octets.bit first 3 then TagClass.context else .application
  let (kind, consumed) ← decodeKind tagClass number (Octets.field first 0 3) data consumed
  let tag : Tag := ⟨number, tagClass, kind⟩
  of (Tag.checkBoolean tag)
  pure (tag, consumed)

theorem slice?_cons (first : UInt8) (rest : Octets) (length : Nat) :
    slice? (first :: rest) 1 (1 + length) = Octets.take? length rest :=
  slice?_add (first :: rest) 1 length (Nat.succ_pos _)

theorem decodeLength_eq (data : Octets) :
    ∃ error, decodeLength data = orError error (Tag.decodeLength data) := by
  cases data with
  | nil => exact ⟨_, rfl⟩
  | cons marker rest =>
    rw [Tag.decodeLength]
    show ∃ error, (if marker = 254 then _ else if marker = 255 then _ else _ : Guarded _ _) = _
    split
    · rw [slice?_cons marker rest 2]
      cases takes : Octets.take? 2 rest with
      | none => exact ⟨_, rfl⟩
      | some taken =>
        obtain ⟨a, b, rfl⟩ := Octets.exists_of_length_two (Octets.length_of_take? takes)
        refine ⟨.unexpectedEndOfData 0 0, ?_⟩
        show (pure ((Octets.word16 a b).toNat, 3) : Guarded _ _) = _
        rw [Octets.toNat_word16]
        rfl
    · split
      · rw [slice?_cons marker rest 4]
        cases takes : Octets.take? 4 rest with
        | none => exact ⟨_, rfl⟩
        | some taken =>
          obtain ⟨a, b, c, d, rfl⟩ := Octets.exists_of_length_four (Octets.length_of_take? takes)
          refine ⟨.unexpectedEndOfData 0 0, ?_⟩
          show (pure ((Octets.word32 a b c d).toNat, 5) : Guarded _ _) = _
          rw [Octets.toNat_word32]
          rfl
      · exact ⟨.unexpectedEndOfData 0 0, rfl⟩

theorem decodeNumber_eq (first : UInt8) (rest : Octets) :
    decodeNumber first (first :: rest) =
      of ((fun (number, extended) => (number, if extended then 2 else 1)) <$>
        Tag.decodeNumber first rest) := by
  unfold decodeNumber Tag.decodeNumber
  split
  · cases rest with
    | nil => rfl
    | cons number rest =>
      show (if number = 255 then _ else _ : Guarded _ _) = _
      dsimp only
      split <;> rfl
  · rfl

theorem decodeKind_eq (tagClass : TagClass) (number : UInt8) (field : Nat) {data : Octets}
    (fits : data.length ≤ maxCount) {consumed : Nat} (within : consumed ≤ data.length)
    (few : consumed ≤ 2) :
    decodeKind tagClass number field data consumed =
      of ((fun (kind, more) => (kind, consumed + more)) <$>
        Tag.decodeKind tagClass number field (data.drop consumed) consumed data.length) := by
  unfold decodeKind Tag.decodeKind
  split
  · obtain ⟨error, told⟩ := decodeLength_eq (data.drop consumed)
    rw [sliceFrom_of_le within, plus_of_le (by unfold maxCount; omega)]
    simp only [pure_bind]
    rw [told]
    cases length : Tag.decodeLength (data.drop consumed) with
    | none => rfl
    | some result =>
      obtain ⟨length, used⟩ := result
      obtain ⟨front, behind, whole, rfl, -⟩ := Tag.exists_front_of_decodeLength length
      have short := congrArg List.length whole
      rw [List.length_drop, List.length_append] at short
      show plus consumed front.length >>= _ = _
      rw [plus_of_le (by omega)]
      rfl
  · split
    · rfl
    · cases tagClass <;> rfl

theorem decodeTag_eq {data : Octets} (fits : data.length ≤ maxCount) :
    decodeTag data = of (Tag.decode data) := by
  cases data with
  | nil => rfl
  | cons first rest =>
    show (decodeNumber first (first :: rest) >>= _) = _
    rw [decodeNumber_eq, Tag.decode]
    cases numbered : Tag.decodeNumber first rest with
    | error error => rfl
    | ok result =>
      obtain ⟨number, extended⟩ := result
      obtain ⟨front, behind, whole, size, -⟩ := Tag.exists_front_of_decodeNumber numbered
      have within : (if extended then 2 else 1) ≤ (first :: rest).length := by
        rw [whole, List.length_cons, List.length_append, size]
        cases extended <;> simp
      have few : (if extended then 2 else 1) ≤ 2 := by cases extended <;> decide
      show (decodeKind _ number _ _ _ >>= _) = _
      rw [decodeKind_eq _ _ _ fits within few]
      simp only [bind, Except.bind]
      generalize Tag.decodeKind _ number _ _ _ _ = kinded
      cases kinded with
      | error error => rfl
      | ok result =>
        exact of_bind (Tag.checkBoolean ⟨number, _, result.1⟩) fun _ =>
          Except.ok (_, (if extended then 2 else 1) + result.2)

/-- The octets of a content, whose end may not even fit a word. -/
def content (data : Octets) (offset length : Nat) : Guarded DataError Octets := do
  let behind ← orError (.unexpectedEndOfData maxCount data.length) (plus? offset length)
  orError (.unexpectedEndOfData behind data.length) (slice? data offset behind)

/-- Reads an application tag. -/
def decodeApplicationTag (data : Octets) : Guarded DataError (DataType × Nat × Nat) := do
  let (tag, consumed) ← decodeTag data
  match tag.tagClass, tag.kind with
  | .application, .value length =>
    let type ← of (DataType.ofNumber tag.number)
    pure (type, length, consumed)
  | _, _ => throw (.unexpectedTag .anyApplication (.tag tag))

/-- Reads the tag of a primitive element with this context number. -/
def decodeContextTag (data : Octets) (number : UInt8) : Guarded DataError (Nat × Nat) := do
  let (tag, consumed) ← decodeTag data
  if tag.isContext number then pure (tag.contentLength, consumed)
  else throw (.unexpectedTag (.context number) (.tag tag))

theorem content_eq {data : Octets} (fits : data.length ≤ maxCount) {offset : Nat}
    (within : offset ≤ data.length) (length : Nat) :
    content data offset length = of (BACnet.content data offset length) := by
  unfold content BACnet.content plus?
  rw [← slice?_add data offset length within]
  split
  · next small =>
    rw [Nat.min_eq_left small]
    show orError _ (slice? data offset (offset + length)) = _
    cases slice? data offset (offset + length) <;> rfl
  · next large =>
    rw [Nat.min_eq_right (Nat.le_of_not_le large), slice?,
      if_neg fun inside => large (Nat.le_trans inside.2 fits)]
    rfl

theorem decodeApplicationTag_eq {data : Octets} (fits : data.length ≤ maxCount) :
    decodeApplicationTag data = of (BACnet.decodeApplicationTag data) := by
  rw [decodeApplicationTag, BACnet.decodeApplicationTag, decodeTag_eq fits, ← of_bind]
  congr 1
  funext result
  obtain ⟨⟨number, tagClass, kind⟩, consumed⟩ := result
  cases tagClass <;> cases kind <;> first | rfl | exact of_bind _ fun _ => Except.ok _

theorem decodeContextTag_eq {data : Octets} (fits : data.length ≤ maxCount) (number : UInt8) :
    decodeContextTag data number = of (BACnet.decodeContextTag data number) := by
  rw [decodeContextTag, BACnet.decodeContextTag, decodeTag_eq fits, ← of_bind]
  congr 1
  funext result
  obtain ⟨tag, consumed⟩ := result
  dsimp only
  split <;> rfl

/-! ## Contents -/

/-- Reads a signed integer. -/
def decodeSignedContent (content : Octets) : Guarded DataError Int64 := do
  if content.length = 0 ∨ 8 < content.length then
    throw (.invalidLength .signed content.length)
  let fill := if Octets.bit (← octet content 0) 7 then 255 else 0
  let extended ← copyFrom (List.replicate 8 fill) (← minus 8 content.length) content
  pure (UInt64.ofNat (Octets.ofBigEndian extended)).toInt64

theorem decodeSignedContent_eq (content : Octets) :
    decodeSignedContent content = of (BACnet.decodeSignedContent content) := by
  unfold decodeSignedContent BACnet.decodeSignedContent
  split
  · rfl
  · next allowed =>
    cases content with
    | nil => exact absurd (.inl rfl) allowed
    | cons first rest =>
      have short : (first :: rest).length ≤ 8 := by omega
      show (minus 8 (first :: rest).length >>= _) = _
      rw [minus_of_le short, pure_bind, copyFrom_of_eq, pure_bind, List.take_replicate,
        Nat.min_eq_left]
      · rfl
      · omega
      · rw [List.length_replicate]
        omega

/-- Reads characters of four octets each. -/
def decodeUcs4 (text : Octets) : Guarded DataError (List Char) :=
  (chunks 4 text).mapM fun chunk => do
    let code := Octets.word32 (← octet chunk 0) (← octet chunk 1) (← octet chunk 2)
      (← octet chunk 3)
    if code.toNat.isValidChar then pure (Char.ofNat code.toNat)
    else throw (.invalidFormat (.codePoint code))

/-- Reads characters of two octets each. -/
def decodeUcs2 (text : Octets) : Guarded DataError (List Char) :=
  (chunks 2 text).mapM fun chunk => do
    let code := Octets.word16 (← octet chunk 0) (← octet chunk 1)
    if code.toNat.isValidChar then pure (Char.ofNat code.toNat)
    else throw (.invalidFormat (.surrogate code))

theorem decodeUcs4_eq (text : Octets) : decodeUcs4 text = of (CharacterString.decodeUcs4 text) := by
  unfold decodeUcs4
  fun_induction CharacterString.decodeUcs4 text with
  | case1 a b c d rest code valid ih =>
    rw [chunks_four, List.mapM_cons, ih]
    show ((if code.toNat.isValidChar then pure _ else throw _ : Guarded DataError Char) >>= _) = _
    rw [if_pos valid]
    exact of_bind _ fun others => Except.ok (Char.ofNat code.toNat :: others)
  | case2 a b c d rest code invalid =>
    rw [chunks_four, List.mapM_cons]
    show ((if code.toNat.isValidChar then pure _ else throw _ : Guarded DataError Char) >>= _) = _
    rw [if_neg invalid]
    rfl
  | case3 text other =>
    have short : text.length < 4 := by
      match text, other with
      | [], _ | [_], _ | [_, _], _ | [_, _, _], _ => simp
      | a :: b :: c :: d :: rest, other => exact (other a b c d rest rfl).elim
    rw [chunks_of_lt short]
    rfl

theorem decodeUcs2_eq : ∀ text : Octets, decodeUcs2 text = of (CharacterString.decodeUcs2 text)
  | [] => by
    rw [decodeUcs2, chunks_of_lt Nat.two_pos]
    rfl
  | [_] => by
    rw [decodeUcs2, chunks_of_lt Nat.one_lt_two]
    rfl
  | high :: low :: rest => by
    rw [decodeUcs2, chunks_two, List.mapM_cons, ← decodeUcs2, decodeUcs2_eq rest,
      CharacterString.decodeUcs2]
    show ((if (Octets.word16 high low).toNat.isValidChar then pure _ else throw _ :
      Guarded DataError Char) >>= _) = _
    split
    · next valid => exact of_bind _ fun others => Except.ok (Char.ofNat _ :: others)
    · rfl

section CharacterStrings

variable [TextCodec]

/-- Reads the text of a double-byte string: first the code page. -/
def decodeDoubleByte (text : Octets) : Guarded DataError CharacterString := do
  if text.length < 2 then throw (.unexpectedEndOfData 3 (text.length + 1))
  let codePage := Octets.word16 (← octet text 0) (← octet text 1)
  let encoding ← of (CharacterString.codePageEncoding codePage)
  match TextCodec.decode? encoding (← sliceFrom text 2) with
  | some text => pure ⟨.doubleByte codePage, text⟩
  | none => throw (.invalidFormat (.codePageSequence codePage))

/-- Reads a character string. -/
def decodeCharacterString : Octets → Guarded DataError CharacterString
  | [] => throw (.invalidLength .characterString 0)
  | code :: text => do
    match code.toNat with
    | 1 => decodeDoubleByte text
    | 3 =>
      if text.length % 4 ≠ 0 then throw (.invalidLength .ucs4Text text.length)
      pure ⟨.ucs4, String.ofList (← decodeUcs4 text)⟩
    | 4 =>
      if text.length % 2 ≠ 0 then throw (.invalidLength .ucs2Text text.length)
      pure ⟨.ucs2, String.ofList (← decodeUcs2 text)⟩
    | _ => of (CharacterString.decodeContent (code :: text))

theorem decodeDoubleByte_eq (text : Octets) :
    decodeDoubleByte text = of (CharacterString.decodeDoubleByte text) := by
  unfold decodeDoubleByte
  match text with
  | [] | [_] => rfl
  | high :: low :: octets =>
    have long : ¬ (high :: low :: octets).length < 2 := by simp
    rw [if_neg long, CharacterString.decodeDoubleByte]
    show (of (CharacterString.codePageEncoding (Octets.word16 high low)) >>= _) = _
    rw [← of_bind]
    congr 1
    funext encoding
    rw [sliceFrom_of_le (by simp)]
    show (match TextCodec.decode? encoding octets with
      | some text => _ | none => _ : Guarded _ _) = _
    cases TextCodec.decode? encoding octets <;> rfl

theorem decodeCharacterString_eq (content : Octets) :
    decodeCharacterString content = of (CharacterString.decodeContent content) := by
  cases content with
  | nil => rfl
  | cons code text =>
    rw [decodeCharacterString]
    split
    · next double =>
      rw [decodeDoubleByte_eq, CharacterString.decodeContent, double]
      rfl
    · next ucs4 =>
      rw [CharacterString.decodeContent, ucs4]
      dsimp only
      split
      · rfl
      · rw [decodeUcs4_eq]
        exact of_bind _ fun chars => Except.ok (CharacterString.mk .ucs4 (String.ofList chars))
    · next ucs2 =>
      rw [CharacterString.decodeContent, ucs2]
      dsimp only
      split
      · rfl
      · rw [decodeUcs2_eq]
        exact of_bind _ fun chars => Except.ok (CharacterString.mk .ucs2 (String.ofList chars))
    · rfl

end CharacterStrings

/-- The bit string of packed octets, whose unused bits are masked out of the last octet. -/
def bitStringOfOctets (unused : UInt8) (octets : Octets) : Guarded DataError BitString :=
  if 7 < unused.toNat ∨ (octets.length = 0 ∧ unused ≠ 0) then
    throw (.invalidFormat (.unusedBits unused octets.length))
  else
    match octets.reverse with
    | [] => pure ⟨unused, octets⟩
    | last :: front => do
      let mask ← shiftLeft 0xFF unused.toNat
      pure ⟨unused, front.reverse ++ [last &&& mask]⟩

/-- Reads a bit string. -/
def decodeBitString : Octets → Guarded DataError BitString
  | [] => throw (.invalidLength .bitString 0)
  | unused :: octets => bitStringOfOctets unused octets

theorem clearLow_eq_and {unused : UInt8} (few : unused.toNat < 8) (octet : UInt8) :
    BitString.clearLow unused octet = octet &&& UInt8.ofNat (0xFF <<< unused.toNat) := by
  have all : ∀ unused < 8, ∀ octet < 256, UInt8.ofNat ((octet >>> unused) <<< unused) =
      UInt8.ofNat octet &&& UInt8.ofNat (0xFF <<< unused) := by
    decide +kernel
  have here := all unused.toNat few octet.toNat octet.toNat_lt
  rw [UInt8.ofNat_toNat] at here
  exact here

theorem clearUnused_concat (unused : UInt8) (front : Octets) (last : UInt8) :
    BitString.clearUnused unused (front ++ [last]) = front ++ [BitString.clearLow unused last] := by
  induction front with
  | nil => rfl
  | cons first others ih =>
    rw [List.cons_append, BitString.clearUnused, ih, List.cons_append]
    simp

theorem bitStringOfOctets_eq (unused : UInt8) (octets : Octets) :
    bitStringOfOctets unused octets = of (BitString.ofOctets unused octets) := by
  unfold bitStringOfOctets BitString.ofOctets
  by_cases bad : 7 < unused.toNat ∨ (octets.length = 0 ∧ unused ≠ 0)
  · rw [if_pos bad, if_pos bad]
    rfl
  · rw [if_neg bad, if_neg bad]
    have few : unused.toNat < 8 := by omega
    split
    · next none =>
      obtain rfl := List.reverse_eq_nil_iff.mp none
      rfl
    · next last front several =>
      have whole : octets = front.reverse ++ [last] := by
        rw [← List.reverse_reverse octets, several, List.reverse_cons]
      rw [shiftLeft_of_lt few, whole, clearUnused_concat, clearLow_eq_and few]
      rfl

theorem decodeBitString_eq (content : Octets) :
    decodeBitString content = of (BitString.decodeContent content) := by
  cases content with
  | nil => rfl
  | cons unused octets => exact bitStringOfOctets_eq unused octets

/-! ## Octets that are consumed -/

theorem used_of_decodeTag {data : Octets} {tag : Tag} {used : Nat}
    (reads : Tag.decode data = .ok (tag, used)) : 1 ≤ used ∧ used ≤ data.length := by
  obtain ⟨front, behind, rfl, rfl, some, -⟩ := Tag.exists_front_of_decode reads
  exact ⟨some, by simp⟩

theorem used_of_decodeApplicationTag {data : Octets} {type : DataType} {length used : Nat}
    (reads : BACnet.decodeApplicationTag data = .ok (type, length, used)) :
    1 ≤ used ∧ used ≤ data.length := by
  obtain ⟨⟨⟨number, tagClass, kind⟩, consumed⟩, tagged, reads⟩ := exists_of_bind_eq_ok reads
  cases tagClass <;> cases kind <;> try cases reads
  obtain ⟨type, -, reads⟩ := exists_of_bind_eq_ok reads
  cases reads
  exact used_of_decodeTag tagged

theorem used_of_decodeContextTag {data : Octets} {number : UInt8} {length used : Nat}
    (reads : BACnet.decodeContextTag data number = .ok (length, used)) :
    1 ≤ used ∧ used ≤ data.length := by
  obtain ⟨⟨tag, consumed⟩, tagged, reads⟩ := exists_of_bind_eq_ok reads
  dsimp only at reads
  split at reads
  · cases reads
    exact used_of_decodeTag tagged
  · cases reads

theorem add_le_of_content {data octets : Octets} {offset length : Nat}
    (within : offset ≤ data.length) (taken : BACnet.content data offset length = .ok octets) :
    offset + length ≤ data.length := by
  unfold BACnet.content Octets.take? at taken
  split at taken
  · next taken' =>
    split at taken'
    · next enough =>
      rw [List.length_drop] at enough
      omega
    · cases taken'
  · cases taken

/-! ## Values -/

/-- Checks the length of a content. -/
def fixed (kind : ContentKind) (length : Nat) (content : Octets) : Guarded DataError Unit :=
  if content.length = length then pure () else throw (.invalidLength kind content.length)

theorem fixed_bind {α : Type} (kind : ContentKind) (length : Nat) (content : Octets)
    (rest : Guarded DataError α) : (fixed kind length content >>= fun _ => rest) =
      if content.length = length then rest else throw (.invalidLength kind content.length) := by
  unfold fixed
  split <;> rfl

variable [TextCodec]

/-- Reads a value of the data type from its content octets. -/
def valueOfContent (type : DataType) (content : Octets) : Guarded DataError Value := do
  match type with
  | .null =>
    fixed .null 0 content
    pure .null
  | .boolean =>
    fixed .contextBoolean 1 content
    pure (.boolean ((← octet content 0) != 0))
  | .signed => .signed <$> decodeSignedContent content
  | .real =>
    fixed .real 4 content
    pure (.real (Octets.word32 (← octet content 0) (← octet content 1) (← octet content 2)
      (← octet content 3)))
  | .double =>
    fixed .double 8 content
    let octets ← copyFrom (List.replicate 8 0) 0 content
    pure (.double (UInt64.ofNat (Octets.ofBigEndian octets)))
  | .characterString => .characterString <$> decodeCharacterString content
  | .bitString => .bitString <$> decodeBitString content
  | .unsigned | .octetString | .enumerated | .date | .time | .objectIdentifier =>
    of (Value.ofContent type content)

/-- Reads the application-tagged value at the head of the octets. -/
def decodeValue (data : Octets) : Guarded DataError (Value × Nat) := do
  let (type, length, consumed) ← decodeApplicationTag data
  if type = .boolean then pure (.boolean (length == 1), consumed)
  else
    let octets ← content data consumed length
    pure (← valueOfContent type octets, ← plus consumed length)

/-- Reads the context-tagged value of a known data type at the head of the octets. -/
def decodeContextValue (data : Octets) (number : UInt8) (type : DataType) :
    Guarded DataError (Value × Nat) := do
  let (length, consumed) ← decodeContextTag data number
  let octets ← content data consumed length
  pure (← valueOfContent type octets, ← plus consumed length)

theorem valueOfContent_eq (type : DataType) (content : Octets) :
    valueOfContent type content = of (Value.ofContent type content) := by
  unfold valueOfContent Value.ofContent
  cases type with
  | null =>
    dsimp only
    rw [fixed_bind]
    split <;> rfl
  | boolean =>
    dsimp only
    rw [fixed_bind]
    match content with
    | [octet] => rfl
    | [] | _ :: _ :: _ => rfl
  | signed =>
    dsimp only
    rw [decodeSignedContent_eq, of_map]
  | real =>
    dsimp only
    rw [fixed_bind]
    match content with
    | [a, b, c, d] => rfl
    | [] | [_] | [_, _] | [_, _, _] | _ :: _ :: _ :: _ :: _ :: _ => rfl
  | double =>
    dsimp only
    rw [fixed_bind, Value.decodeDoubleContent]
    split
    · next eight =>
      rw [copyFrom_of_eq (by rw [eight]; rfl)]
      rfl
    · rfl
  | characterString =>
    dsimp only
    rw [decodeCharacterString_eq, of_map]
  | bitString =>
    dsimp only
    rw [decodeBitString_eq, of_map]
  | _ => rfl

theorem content_then_eq {data : Octets} (fits : data.length ≤ maxCount) {consumed : Nat}
    (within : consumed ≤ data.length) (length : Nat) (type : DataType) :
    (do
      let octets ← content data consumed length
      pure (← valueOfContent type octets, ← plus consumed length) : Guarded _ (Value × Nat)) =
    of (do
      let octets ← BACnet.content data consumed length
      .ok (← Value.ofContent type octets, consumed + length)) := by
  rw [content_eq fits within]
  cases taken : BACnet.content data consumed length with
  | error error => rfl
  | ok octets =>
    have there := add_le_of_content within taken
    show (valueOfContent type octets >>= fun value => plus consumed length >>= _) = _
    rw [valueOfContent_eq, plus_of_le (Nat.le_trans there fits)]
    exact of_bind _ fun value => Except.ok (value, consumed + length)

theorem decodeValue_eq {data : Octets} (fits : data.length ≤ maxCount) :
    decodeValue data = of (Value.decode data) := by
  rw [decodeValue, Value.decode, decodeApplicationTag_eq fits]
  cases tagged : BACnet.decodeApplicationTag data with
  | error error => rfl
  | ok result =>
    obtain ⟨type, length, consumed⟩ := result
    obtain ⟨-, within⟩ := used_of_decodeApplicationTag tagged
    show (if type = .boolean then _ else _ : Guarded _ _) = of (if type = .boolean then _ else _)
    split
    · rfl
    · exact content_then_eq fits within length type

theorem decodeContextValue_eq {data : Octets} (fits : data.length ≤ maxCount) (number : UInt8)
    (type : DataType) :
    decodeContextValue data number type = of (Value.decodeContext data number type) := by
  rw [decodeContextValue, Value.decodeContext, decodeContextTag_eq fits]
  cases tagged : BACnet.decodeContextTag data number with
  | error error => rfl
  | ok result =>
    obtain ⟨length, consumed⟩ := result
    obtain ⟨-, within⟩ := used_of_decodeContextTag tagged
    exact content_then_eq fits within length type

end Guarded

/-! ## Consumed octets -/

variable [TextCodec]

/-- A value that is read takes at least one octet, and no more than there are. -/
theorem Value.used_of_decode {data : Octets} {value : Value} {used : Nat}
    (reads : decode data = .ok (value, used)) : 1 ≤ used ∧ used ≤ data.length := by
  obtain ⟨⟨type, length, consumed⟩, tagged, reads⟩ := exists_of_bind_eq_ok reads
  obtain ⟨some, within⟩ := Guarded.used_of_decodeApplicationTag tagged
  dsimp only at reads
  split at reads
  · cases reads
    exact ⟨some, within⟩
  · obtain ⟨octets, taken, reads⟩ := exists_of_bind_eq_ok reads
    obtain ⟨value, -, reads⟩ := exists_of_bind_eq_ok reads
    cases reads
    exact ⟨Nat.le_add_right_of_le some, Guarded.add_le_of_content within taken⟩

theorem Value.used_of_decodeContext {data : Octets} {number : UInt8} {type : DataType}
    {value : Value} {used : Nat} (reads : decodeContext data number type = .ok (value, used)) :
    1 ≤ used ∧ used ≤ data.length := by
  obtain ⟨⟨length, consumed⟩, tagged, reads⟩ := exists_of_bind_eq_ok reads
  obtain ⟨some, within⟩ := Guarded.used_of_decodeContextTag tagged
  obtain ⟨octets, taken, reads⟩ := exists_of_bind_eq_ok reads
  obtain ⟨value, -, reads⟩ := exists_of_bind_eq_ok reads
  cases reads
  exact ⟨Nat.le_add_right_of_le some, Guarded.add_le_of_content within taken⟩

end BACnet
