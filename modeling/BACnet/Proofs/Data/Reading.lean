import BACnet.Data.Typed
import BACnet.Proofs.Data.Delimiting
import BACnet.Proofs.Data.Nesting
import BACnet.Proofs.Data.Value

/-!
# Reading elements in a row

An action of the reader takes some octets (`Read.Takes`) if it reads them wherever they stand and
leaves the reader right behind them. Actions one after the other take octets one behind the other
(`Read.Takes.seq`), so a message of several elements is read element by element. What comes next
can be told from the tag of the next element alone (`Reader.nextIs_append`).
-/

namespace BACnet

/-- In front of these octets the action reads the value and stands behind them, whatever follows
them and whatever is open. -/
def Read.Takes {α : Type} (action : Read α) (octets : Octets) (value : α) : Prop :=
  ∀ rest position opened maxDepth,
    action ⟨octets ++ rest, position, opened, maxDepth⟩ =
      .ok value ⟨rest, position + octets.length, opened, maxDepth⟩

namespace Read

variable {α β : Type} {first : Read α} {second : α → Read β} {octets more : Octets} {value : α}
  {other : β}

/-- Behind an action that succeeds the next one goes on. -/
theorem bind_eq {reader behind : Reader} (ends : first reader = .ok value behind)
    (second : α → Read β) : (first >>= second) reader = second value behind := by
  show EStateM.bind first second reader = _
  rw [EStateM.bind, ends]

/-- Behind an action that fails the next one is not run. -/
theorem bind_eq_error {reader behind : Reader} {error : DataError}
    (fails : first reader = .error error behind) (second : α → Read β) :
    (first >>= second) reader = .error error behind := by
  show EStateM.bind first second reader = _
  rw [EStateM.bind, fails]

/-- Actions one after the other succeed if each of them does. -/
theorem exists_of_bind {reader behind : Reader}
    (ends : (first >>= second) reader = .ok other behind) :
    ∃ value middle, first reader = .ok value middle ∧ second value middle = .ok other behind := by
  change EStateM.bind first second reader = _ at ends
  unfold EStateM.bind at ends
  split at ends
  · next value middle reads => exact ⟨value, middle, reads, ends⟩
  · cases ends

namespace Takes

theorem pure (value : α) : Takes (pure value) [] value := fun _ _ _ _ => rfl

theorem lift {result : Except DataError α} (succeeds : result = .ok value) :
    Takes (lift result) [] value := by
  rw [succeeds]
  exact fun _ _ _ _ => rfl

theorem bind (takes : Takes first octets value) (rest : Octets) (position : Nat)
    (opened : List UInt8) (maxDepth : Nat) :
    (first >>= second) ⟨octets ++ rest, position, opened, maxDepth⟩ =
      second value ⟨rest, position + octets.length, opened, maxDepth⟩ :=
  bind_eq (takes rest position opened maxDepth) second

theorem seq (takes : Takes first octets value) (goesOn : Takes (second value) more other) :
    Takes (first >>= second) (octets ++ more) other := by
  intro rest position opened maxDepth
  rw [List.append_assoc, takes.bind, goesOn, List.length_append, Nat.add_assoc]

/-- An action that makes something of what another one reads takes the same octets. -/
theorem then_nothing (takes : Takes first octets value) (goesOn : Takes (second value) [] other) :
    Takes (first >>= second) octets other := by
  have both := takes.seq goesOn
  rwa [List.append_nil] at both

theorem map (takes : Takes first octets value) (f : α → β) :
    Takes (f <$> first) octets (f value) := by
  rw [map_eq_pure_bind]
  exact takes.then_nothing (pure _)

end Takes

theorem step_eq_ok_iff {f : Reader → Except DataError (α × Reader)} {reader behind : Reader} :
    step f reader = .ok value behind ↔ f reader = .ok (value, behind) := by
  unfold step
  cases f reader with
  | error error => exact ⟨nofun, nofun⟩
  | ok result =>
    constructor
    · rintro ⟨⟩
      rfl
    · rintro ⟨⟩
      rfl

theorem lift_bind {result : Except DataError α} (succeeds : result = .ok value)
    (second : α → Read β) (reader : Reader) :
    (lift result >>= second) reader = second value reader := by
  rw [succeeds]
  rfl

/-! ## Values behind application tags -/

variable [TextCodec]

theorem takes_value {value : Value} (reads : Value.decode octets = .ok (value, octets.length)) :
    Takes Read.value octets value := by
  intro rest position opened maxDepth
  obtain ⟨front, behind, whole, size, decides⟩ := Value.decidedByFront_decode reads
  obtain rfl : octets = front := by
    rw [whole, List.length_append, Nat.left_eq_add, List.length_eq_zero_iff] at size
    rw [whole, size, List.append_nil]
  unfold Read.value element step
  simp only [decides, bind, Except.bind, Reader.advance, List.drop_left]

/-- Where an enumerated value is read, octets stand that are one. -/
theorem exists_of_enumerated {reader behind : Reader} {number : UInt32}
    (reads : enumerated reader = .ok number behind) :
    ∃ octets, reader.rest = octets ++ behind.rest ∧
      Value.decode octets = .ok (.enumerated number, octets.length) ∧
      behind.opened = reader.opened ∧ behind.maxDepth = reader.maxDepth := by
  obtain ⟨value, middle, taken, known⟩ := exists_of_bind reads
  unfold Read.value element at taken
  obtain ⟨⟨value, used⟩, decoded, moved⟩ := exists_of_bind_eq_ok (step_eq_ok_iff.mp taken)
  cases moved
  split at known
  · cases known
    obtain ⟨octets, rest, whole, rfl, decides⟩ := Value.decidedByFront_decode decoded
    have alone := decides []
    rw [List.append_nil] at alone
    refine ⟨octets, ?_, alone, rfl, rfl⟩
    rw [Reader.advance, whole, List.drop_left]
  · cases known

theorem takes_unsigned {number : UInt64}
    (reads : Value.decode octets = .ok (.unsigned number, octets.length)) :
    Takes unsigned octets number :=
  (takes_value reads).then_nothing (.pure number)

theorem takes_enumerated {number : UInt32}
    (reads : Value.decode octets = .ok (.enumerated number, octets.length)) :
    Takes enumerated octets number :=
  (takes_value reads).then_nothing (.pure number)

theorem takes_objectIdentifier {identifier : ObjectIdentifier}
    (reads : Value.decode octets = .ok (.objectIdentifier identifier, octets.length)) :
    Takes objectIdentifier octets identifier :=
  (takes_value reads).then_nothing (.pure identifier)

end Read

section

variable [TextCodec]

/-- A value that is carried is read from its octets alone. -/
theorem Value.Portable.decode_encode {value : Value} (portable : value.Portable) {octets : Octets}
    (encodes : value.encode = .ok octets) : Value.decode octets = .ok (value, octets.length) := by
  obtain ⟨_, same, reads⟩ := portable.exists_encode
  cases encodes.symm.trans same
  have alone := reads []
  rwa [List.append_nil] at alone

theorem decode_encodeUnsigned (value : UInt64) :
    Value.decode (encodeUnsigned value) = .ok (.unsigned value, (encodeUnsigned value).length) := by
  have short := length_unsignedContent_le_eight value
  have portable : (Value.unsigned value).Portable := .of_content trivial rfl (by omega)
  exact portable.decode_encode rfl

theorem decode_encodeEnumerated (value : UInt32) :
    Value.decode (encodeEnumerated value) =
      .ok (.enumerated value, (encodeEnumerated value).length) := by
  have short := length_enumeratedContent_le value
  have portable : (Value.enumerated value).Portable := .of_content trivial rfl (by omega)
  exact portable.decode_encode rfl

theorem Read.takes_encodeEnumerated (value : UInt32) :
    Takes enumerated (encodeEnumerated value) value :=
  takes_enumerated (decode_encodeEnumerated value)

theorem decode_encodeObjectIdentifier {identifier : ObjectIdentifier} (fits : identifier.Fits) :
    Value.decode (encodeObjectIdentifier identifier) =
      .ok (.objectIdentifier identifier, (encodeObjectIdentifier identifier).length) := by
  have four : identifier.content.length = 4 := Octets.length_bigEndian _ _
  have portable : (Value.objectIdentifier identifier).Portable := .of_content fits rfl (by omega)
  exact portable.decode_encode rfl

end

/-! ## Contents behind context tags -/

theorem exists_encodeContext {number : UInt8} (writable : number ≠ 255) {inside : Octets}
    (fits : inside.length < 0x100000000) : ∃ octets, encodeContext number inside = .ok octets := by
  obtain ⟨length, told⟩ := Tag.exists_tail number .context fits
  have head : (Tag.context number inside.length).encode = _ := Tag.encode_of_tail writable told
  rw [encodeContext, head]
  exact ⟨_, rfl⟩

theorem exists_encodeContextUnsigned {number : UInt8} (writable : number ≠ 255) (value : UInt64) :
    ∃ octets, encodeContextUnsigned number value = .ok octets := by
  have short := length_unsignedContent_le_eight value
  exact exists_encodeContext writable (by omega)

/-- A content that is so long that no tag can tell its length is not written. -/
theorem encodeContext_of_long {number : UInt8} (writable : number ≠ 255) {inside : Octets}
    (long : 0x100000000 ≤ inside.length) :
    encodeContext number inside = .error (.valueOutOfRange (.contentLength inside.length)) := by
  have tail : Tag.tail (.context number inside.length) =
      .error (.valueOutOfRange (.contentLength inside.length)) := by
    unfold Tag.tail Tag.context Tag.encodeLength
    dsimp only
    rw [if_neg (by omega), if_neg (by omega), if_neg (by omega), if_neg (by omega)]
  have head : Tag.encode (.context number inside.length) =
      .error (.valueOutOfRange (.contentLength inside.length)) := by
    refine (if_neg writable).trans ?_
    rw [tail]
    rfl
  rw [encodeContext, head]
  rfl

/-- Behind a context tag stands its content. -/
theorem exists_of_encodeContext {number : UInt8} {inside octets : Octets}
    (encodes : encodeContext number inside = .ok octets) :
    ∃ head, octets = head ++ inside ∧
      Tag.decode head = .ok (.context number inside.length, head.length) := by
  obtain ⟨head, told, whole⟩ := exists_of_bind_eq_ok encodes
  cases whole
  have meaningful : (Tag.context number inside.length).Meaningful :=
    fun application => nomatch application
  have reads := Tag.decode_append meaningful told []
  rw [List.append_nil] at reads
  exact ⟨head, rfl, reads⟩

namespace Reader

/-- What comes next is told by the tag that stands there, whatever follows it. -/
theorem nextIs_append {head : Octets} {tag : Tag} (reads : Tag.decode head = .ok (tag, head.length))
    (test : Tag → Bool) (rest : Octets) (position : Nat) (opened : List UInt8) (maxDepth : Nat) :
    nextIs ⟨head ++ rest, position, opened, maxDepth⟩ test = test tag := by
  have more : isEmpty ⟨head ++ rest, position, opened, maxDepth⟩ = false := by
    cases head with
    | nil => cases reads
    | cons first others => rfl
  rw [nextIs, peek, more, Tag.decode_append_of_decode reads]
  rfl

theorem nextIsContext_append {number : UInt8} {inside octets : Octets}
    (encodes : encodeContext number inside = .ok octets) (other : UInt8) (rest : Octets)
    (position : Nat) (opened : List UInt8) (maxDepth : Nat) :
    nextIsContext ⟨octets ++ rest, position, opened, maxDepth⟩ other = (number == other) := by
  obtain ⟨head, rfl, reads⟩ := exists_of_encodeContext encodes
  rw [List.append_assoc]
  exact nextIs_append reads _ _ _ _ _

theorem isEmpty_of_encodeContext {number : UInt8} {inside octets : Octets}
    (encodes : encodeContext number inside = .ok octets) (rest : Octets) (position : Nat)
    (opened : List UInt8) (maxDepth : Nat) :
    isEmpty ⟨octets ++ rest, position, opened, maxDepth⟩ = false := by
  obtain ⟨head, rfl, reads⟩ := exists_of_encodeContext encodes
  cases head with
  | nil => cases reads
  | cons first others => rfl

end Reader

namespace Tag

variable {tag : Tag} {data : Octets} {used : Nat} {number : UInt8}

theorem eq_opening_of_isOpening (reads : decode data = .ok (tag, used))
    (opening : tag.isOpening number = true) : tag = .opening number := by
  rw [isOpening, Bool.and_eq_true, beq_iff_eq, beq_iff_eq] at opening
  rw [eq_opening_of_decode reads opening.1, opening.2]

theorem eq_closing_of_isClosing (reads : decode data = .ok (tag, used))
    (closing : tag.isClosing number = true) : tag = .closing number := by
  rw [isClosing, Bool.and_eq_true, beq_iff_eq, beq_iff_eq] at closing
  rw [eq_closing_of_decode reads closing.1, closing.2]

end Tag

namespace Read

variable {number : UInt8} {inside octets : Octets}

theorem takes_tag {head : Octets} {tag : Tag} {length : Nat}
    (reads : Tag.decode head = .ok (tag, head.length)) (value : tag.kind = .value length) :
    Takes Read.tag head tag := by
  intro rest position opened maxDepth
  exact step_eq_ok_iff.mpr (next_eq_ok_iff.mpr
    ⟨head, rest, opened, rfl, reads, openedAfter_of_value value, rfl⟩)

theorem takes_content (inside : Octets) : Takes (content inside.length) inside inside := by
  intro rest position opened maxDepth
  exact step_eq_ok_iff.mpr (nextContent_eq_ok_iff.mpr ⟨rest, rfl, rfl, rfl⟩)

theorem takes_contextContent (encodes : encodeContext number inside = .ok octets) :
    Takes (contextContent number) octets inside := by
  obtain ⟨head, rfl, reads⟩ := exists_of_encodeContext encodes
  have expected : (Tag.context number inside.length).isContext number = true :=
    beq_self_eq_true number
  have tag : Takes (tagThat (·.isContext number) (.context number)) head
      (.context number inside.length) := by
    refine (takes_tag reads rfl).then_nothing ?_
    rw [if_pos expected]
    exact .pure _
  exact tag.seq (takes_content inside)

theorem takes_contextUnsigned {value : UInt64}
    (encodes : encodeContextUnsigned number value = .ok octets) :
    Takes (contextUnsigned number) octets value :=
  (takes_contextContent encodes).then_nothing
    (.lift (decodeUnsignedContent_unsignedContent value))

theorem takes_contextEnumerated {value : UInt32}
    (encodes : encodeContextEnumerated number value = .ok octets) :
    Takes (contextEnumerated number) octets value :=
  (takes_contextContent encodes).then_nothing
    (.lift (decodeEnumeratedContent_enumeratedContent value))

theorem takes_contextCharacterString [TextCodec] {string : CharacterString} (held : string.Representable)
    (encodes : encodeContextCharacterString number string = .ok octets) :
    Takes (contextCharacterString number) octets string := by
  obtain ⟨content, written, reads⟩ := held.exists_content
  rw [encodeContextCharacterString, written] at encodes
  exact (takes_contextContent encodes).then_nothing (.lift reads)

/-! ### Brackets -/

theorem tagThat_eq_ok_iff {test : Tag → Bool} {expected : Expectation} {reader behind : Reader}
    {tag : Tag} :
    tagThat test expected reader = .ok tag behind ↔
      reader.next = .ok (tag, behind) ∧ test tag = true := by
  constructor
  · intro reads
    obtain ⟨found, middle, taken, ends⟩ := exists_of_bind reads
    split at ends
    · next passes =>
      cases ends
      exact ⟨step_eq_ok_iff.mp taken, passes⟩
    · cases ends
  · rintro ⟨next, passes⟩
    refine (bind_eq (step_eq_ok_iff.mpr next) _).trans ?_
    rw [if_pos passes]
    rfl

/-- A constructed value is opened by its tag if there is room for one more. -/
theorem openTag_eq_ok_iff {reader behind : Reader} :
    openTag number reader = .ok () behind ↔
      ∃ head rest, reader.rest = head ++ rest ∧
        Tag.decode head = .ok (.opening number, head.length) ∧
        reader.opened.length < reader.maxDepth ∧
        behind = ⟨rest, reader.position + head.length, number :: reader.opened,
          reader.maxDepth⟩ := by
  constructor
  · intro opens
    obtain ⟨tag, middle, reads, ends⟩ := exists_of_bind opens
    cases ends
    obtain ⟨next, opening⟩ := tagThat_eq_ok_iff.mp reads
    obtain ⟨head, rest, opened, whole, decoded, opens, rfl⟩ := next_eq_ok_iff.mp next
    obtain rfl := Tag.eq_opening_of_isOpening decoded opening
    obtain ⟨room, rfl⟩ := openedAfter_opening_eq_ok_iff.mp opens
    exact ⟨head, rest, whole, decoded, room, rfl⟩
  · rintro ⟨head, rest, whole, decoded, room, rfl⟩
    have next := next_eq_ok_iff.mpr ⟨head, rest, _, whole, decoded, openedAfter_opening room, rfl⟩
    have opening : (Tag.opening number).isOpening number = true := beq_self_eq_true number
    exact bind_eq (tagThat_eq_ok_iff.mpr ⟨next, opening⟩) _

/-- A constructed value is closed by its tag if it is the innermost one that is open. -/
theorem closeTag_eq_ok_iff {reader behind : Reader} :
    closeTag number reader = .ok () behind ↔
      ∃ head rest outer, reader.rest = head ++ rest ∧
        Tag.decode head = .ok (.closing number, head.length) ∧ reader.opened = number :: outer ∧
        behind = ⟨rest, reader.position + head.length, outer, reader.maxDepth⟩ := by
  constructor
  · intro closes
    obtain ⟨tag, middle, reads, ends⟩ := exists_of_bind closes
    cases ends
    obtain ⟨next, closing⟩ := tagThat_eq_ok_iff.mp reads
    obtain ⟨head, rest, opened, whole, decoded, closes, rfl⟩ := next_eq_ok_iff.mp next
    obtain rfl := Tag.eq_closing_of_isClosing decoded closing
    exact ⟨head, rest, opened, whole, decoded, openedAfter_closing_eq_ok_iff.mp closes, rfl⟩
  · rintro ⟨head, rest, outer, whole, decoded, known, rfl⟩
    have next := next_eq_ok_iff.mpr
      ⟨head, rest, _, whole, decoded, openedAfter_closing_eq_ok_iff.mpr known, rfl⟩
    have closing : (Tag.closing number).isClosing number = true := beq_self_eq_true number
    exact bind_eq (tagThat_eq_ok_iff.mpr ⟨next, closing⟩) _

/-! ### Elements that may be missing -/

variable {α : Type} {action : Read α}

/-- An element that may be missing is not read in front of another one. -/
theorem optional_of_other {reader : Reader} (other : reader.nextIsContext number = false) :
    (do if (← get).nextIsContext number then some <$> action else pure none : Read (Option α))
      reader = .ok none reader := by
  show (if reader.nextIsContext number then some <$> action else pure none : Read (Option α))
    reader = _
  rw [other]
  rfl

theorem takes_optional (encodes : encodeContext number inside = .ok octets) {value : α}
    (takes : action.Takes octets value) :
    Takes (do if (← get).nextIsContext number then some <$> action else pure none) octets
      (some value) := by
  intro rest position opened maxDepth
  have here := Reader.nextIsContext_append encodes number rest position opened maxDepth
  rw [beq_self_eq_true] at here
  show (if Reader.nextIsContext ⟨octets ++ rest, position, opened, maxDepth⟩ number then
    some <$> action else pure none : Read (Option α)) _ = _
  rw [here]
  exact takes.map some rest position opened maxDepth

end Read

end BACnet
