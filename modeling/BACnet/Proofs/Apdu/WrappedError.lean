import BACnet.Proofs.Apdu.RoundTrip
import BACnet.Proofs.Data.Reading
import BACnet.Proofs.Data.Skipping
import BACnet.Text.Chart

/-!
# Errors in a constructed value

An error class and an error code mean the same at the head of a constructed value as they do bare
(`Apdu.wrapped_error_as_bare`). What follows them in the value is skipped up to the tag that closes
it. The loop that does so (`ClosingLoop`) ends after no more tags than there are octets
(`exists_closingLoop`), gets over elements of any kind to the closing tag behind them
(`exists_skipUntilClosing`), and gets over nothing else (`ClosingLoop.nested`).
-/

namespace BACnet

open Reader Read
open Apdu (skipUntilClosing)

/-! ## The loop up to the closing tag -/

/-- The loop that skips elements up to a closing tag, with the number of tags that it reads and with
its result. -/
inductive ClosingLoop (number : UInt8) :
    Nat → Reader → EStateM.Result DataError Reader Unit → Prop where
  | found {reader : Reader} (here : reader.nextIsClosing number = true) :
      ClosingLoop number 0 reader (.ok () reader)
  | fault {turns : Nat} {reader behind : Reader} {error : DataError}
      (elsewhere : reader.nextIsClosing number = false)
      (loop : SkipLoop reader.depth turns reader (.error error behind)) :
      ClosingLoop number turns reader (.error error behind)
  | skipped {turns others : Nat} {reader behind : Reader}
      {result : EStateM.Result DataError Reader Unit}
      (elsewhere : reader.nextIsClosing number = false)
      (loop : SkipLoop reader.depth turns reader (.ok () behind))
      (goesOn : ClosingLoop number others behind result) :
      ClosingLoop number (turns + others) reader result

/-- One turn of the loop. -/
theorem skipUntilClosing_succ (number : UInt8) (fuel : Nat) (reader : Reader) :
    skipUntilClosing number (fuel + 1) reader =
      if reader.nextIsClosing number then .ok () reader
      else
        match skip reader with
        | .error error behind => .error error behind
        | .ok () behind => skipUntilClosing number fuel behind := by
  show (if reader.nextIsClosing number then pure () else
    skip >>= fun _ => skipUntilClosing number fuel : Read Unit) reader = _
  split
  · rfl
  · show EStateM.bind skip _ reader = _
    unfold EStateM.bind
    cases skip reader <;> rfl

/-- The loop ends, and a bound above the number of octets is not reached: it reads no more tags than
there are octets. -/
theorem exists_closingLoop (number : UInt8) {fuel : Nat} {reader : Reader}
    (enough : reader.rest.length < fuel) :
    ∃ turns ≤ reader.rest.length,
      ClosingLoop number turns reader (skipUntilClosing number fuel reader) := by
  induction fuel generalizing reader with
  | zero => cases enough
  | succ fuel ih =>
    rw [skipUntilClosing_succ]
    split
    · next here => exact ⟨0, Nat.zero_le _, .found here⟩
    · next elsewhere =>
      rw [Bool.not_eq_true] at elsewhere
      obtain ⟨turns, loop⟩ := exists_skipLoop_skip reader
      cases skips : skip reader with
      | error error behind =>
        rw [skips] at loop
        exact ⟨turns, loop.turns_le.1, .fault elsewhere loop⟩
      | ok _ behind =>
        rw [skips] at loop
        obtain ⟨some, shorter⟩ := loop.turns_le.2 _ rfl
        have fewer : behind.rest.length < fuel := by omega
        obtain ⟨others, few, goesOn⟩ := ih fewer
        exact ⟨turns + others, by omega, .skipped elsewhere loop goesOn⟩

/-- What a loop has skipped that gets to the closing tag is elements. -/
theorem ClosingLoop.nested {number : UInt8} {turns : Nat} {reader behind : Reader}
    (loop : ClosingLoop number turns reader (.ok () behind))
    (room : reader.opened.length ≤ reader.maxDepth) :
    behind.opened = reader.opened ∧ behind.maxDepth = reader.maxDepth ∧
      ∃ inside, reader.rest = inside ++ behind.rest ∧
        Nested (reader.maxDepth - reader.opened.length) inside := by
  generalize ends : (EStateM.Result.ok () behind : EStateM.Result DataError Reader Unit) = result
    at loop
  induction loop with
  | found here =>
    cases ends
    exact ⟨rfl, rfl, [], rfl, nested_nil⟩
  | fault => cases ends
  | skipped elsewhere loop goesOn ih =>
    obtain ⟨closed, limit, first, whole, nested⟩ := loop.nested room
    rw [closed, limit] at ih
    obtain ⟨closed, limit, others, rest, more⟩ := ih room ends
    refine ⟨closed, limit, first ++ others, ?_, nested.append more⟩
    rw [whole, rest, List.append_assoc]

/-- The loop gets over elements to the closing tag behind them. -/
theorem exists_skipUntilClosing {number : UInt8} {depth maxDepth : Nat} {inside last : Octets}
    {opened : List UInt8} (nested : Nested depth inside)
    (closes : Tag.decode last = .ok (.closing number, last.length))
    (room : depth + opened.length ≤ maxDepth) (trailing : Octets) (position : Nat) {fuel : Nat}
    (enough : inside.length < fuel) :
    ∃ final, skipUntilClosing number fuel
        ⟨inside ++ (last ++ trailing), position, opened, maxDepth⟩ =
      .ok () ⟨last ++ trailing, final, opened, maxDepth⟩ := by
  obtain ⟨elements, each, rfl⟩ := nested
  induction elements generalizing position fuel with
  | nil =>
    obtain ⟨fuel, rfl⟩ := Nat.exists_eq_succ_of_ne_zero (Nat.ne_zero_of_lt enough)
    have here : nextIsClosing ⟨last ++ trailing, position, opened, maxDepth⟩ number = true :=
      (nextIs_append closes _ _ _ _ _).trans (beq_self_eq_true number)
    refine ⟨position, ?_⟩
    rw [skipUntilClosing_succ]
    exact if_pos here
  | cons element others ih =>
    obtain ⟨fuel, rfl⟩ := Nat.exists_eq_succ_of_ne_zero (Nat.ne_zero_of_lt enough)
    obtain ⟨spells, each⟩ := List.forall_mem_cons.mp each
    have elsewhere (rest : Octets) :
        nextIsClosing ⟨element ++ rest, position, opened, maxDepth⟩ number = false := by
      obtain ⟨head, tag, behind, rfl, reads, closesNothing⟩ := spells.exists_head
      rw [List.append_assoc]
      exact (nextIs_append reads _ _ _ _ _).trans (closesNothing number)
    rw [List.flatten_cons, List.append_assoc]
    rw [List.flatten_cons, List.length_append] at enough
    have some := spells.length_pos
    have fewer : others.flatten.length < fuel := by omega
    obtain ⟨middle, skips⟩ := exists_skip spells room _ position
    obtain ⟨final, goesOn⟩ := ih middle each fewer
    refine ⟨final, ?_⟩
    rw [skipUntilClosing_succ, elsewhere, skips]
    exact goesOn

namespace Apdu

/-! ## Reading an error -/

theorem closeError_eq (reader : Reader) :
    closeError reader = (do
      skipUntilClosing 0 (reader.rest.length + 1)
      closeTag 0 : Read Unit) reader := rfl

theorem toUInt32_toUInt16 {number : UInt32} (narrow : number.toNat < 0x10000) :
    number.toUInt16.toUInt32 = number := by
  refine UInt32.toNat_inj.mp ?_
  rw [UInt16.toNat_toUInt32, UInt32.toNat_toUInt16]
  exact Nat.mod_eq_of_lt narrow

/-- A class and a code are of 16 bits if they are taken. -/
theorem narrowError_eq_ok_iff {first second : UInt32} {errorClass : ErrorClass}
    {errorCode : ErrorCode} :
    narrowError first second = .ok (errorClass, errorCode) ↔
      first = errorClass.number.toUInt32 ∧ second = errorCode.number.toUInt32 := by
  constructor
  · intro narrows
    unfold narrowError at narrows
    split at narrows
    · cases narrows
    · next narrowClass =>
      split at narrows
      · cases narrows
      · next narrowCode =>
        cases narrows
        exact ⟨(toUInt32_toUInt16 (Nat.lt_of_not_le narrowClass)).symm,
          (toUInt32_toUInt16 (Nat.lt_of_not_le narrowCode)).symm⟩
  · rintro ⟨rfl, rfl⟩
    exact narrowError_toUInt32 errorClass errorCode

/-- The constructed value is closed behind elements, if these are not nested too deep. -/
theorem closeError_append {depth : Nat} {inside closing : Octets} (nested : Nested depth inside)
    (shallow : depth < defaultMaxDepth)
    (closes : Tag.decode closing = .ok (.closing 0, closing.length)) (trailing : Octets)
    (position : Nat) :
    ∃ behind, closeError ⟨inside ++ (closing ++ trailing), position, [0], defaultMaxDepth⟩ =
      .ok () behind := by
  have enough : inside.length < (inside ++ (closing ++ trailing)).length + 1 := by
    rw [List.length_append]
    omega
  have room : depth + [(0 : UInt8)].length ≤ defaultMaxDepth := shallow
  obtain ⟨final, skips⟩ := exists_skipUntilClosing nested closes room trailing position enough
  rw [closeError_eq, bind_eq skips]
  exact ⟨_, closeTag_eq_ok_iff.mpr ⟨closing, trailing, [], rfl, closes, rfl, rfl⟩⟩

theorem exists_of_closeError {reader behind : Reader} (reads : closeError reader = .ok () behind)
    (room : reader.opened.length ≤ reader.maxDepth) :
    ∃ inside closing, reader.rest = inside ++ (closing ++ behind.rest) ∧
      Nested (reader.maxDepth - reader.opened.length) inside ∧
      Tag.decode closing = .ok (.closing 0, closing.length) := by
  rw [closeError_eq] at reads
  obtain ⟨_, middle, skipped, closed⟩ := exists_of_bind reads
  obtain ⟨turns, -, loop⟩ := exists_closingLoop 0 (Nat.lt_succ_self reader.rest.length)
  rw [skipped] at loop
  obtain ⟨-, -, inside, whole, nested⟩ := loop.nested room
  obtain ⟨closing, trailing, outer, closes, decoded, -, rfl⟩ := closeTag_eq_ok_iff.mp closed
  exact ⟨inside, closing, whole.trans (congrArg _ closes), nested, decoded⟩

section

variable [TextCodec]

/-- The parameters of an error message hold an error class and an error code in a constructed value
with the number 0, other octets behind them there, and any octets behind the value. -/
inductive Wraps (errorClass : ErrorClass) (errorCode : ErrorCode) (inside : Octets) :
    Octets → Prop where
  | intro {opening first second closing : Octets} (trailing : Octets)
      (opens : Tag.decode opening = .ok (.opening 0, opening.length))
      (tellsClass : Value.decode first =
        .ok (.enumerated errorClass.number.toUInt32, first.length))
      (tellsCode : Value.decode second =
        .ok (.enumerated errorCode.number.toUInt32, second.length))
      (closes : Tag.decode closing = .ok (.closing 0, closing.length)) :
      Wraps errorClass errorCode inside
        (opening ++ (first ++ (second ++ (inside ++ (closing ++ trailing)))))

theorem readError_of_opening {reader : Reader} (opens : reader.nextIsOpening 0 = true) :
    readError reader = (do
      openTag 0
      let errorClass ← enumerated
      let errorCode ← enumerated
      pure (errorClass, errorCode, true) : Read (UInt32 × UInt32 × Bool)) reader := by
  have here (reader : Reader) : (get : Read Reader) reader = .ok reader reader := rfl
  unfold readError
  simp only [bind, EStateM.bind, here, opens, if_true]

/-- The head of an error in a constructed value is an opening tag and two enumerated values. -/
theorem readError_append {opening first second : Octets} {errorClass errorCode : UInt32}
    (opens : Tag.decode opening = .ok (.opening 0, opening.length))
    (tellsClass : Value.decode first = .ok (.enumerated errorClass, first.length))
    (tellsCode : Value.decode second = .ok (.enumerated errorCode, second.length))
    (rest : Octets) :
    ∃ position, readError (ofOctets (opening ++ (first ++ (second ++ rest)))) =
      .ok (errorClass, errorCode, true) ⟨rest, position, [0], defaultMaxDepth⟩ := by
  have wrapped : nextIsOpening (ofOctets (opening ++ (first ++ (second ++ rest)))) 0 = true :=
    nextIs_append opens _ _ _ _ _
  have opened : openTag 0 (ofOctets (opening ++ (first ++ (second ++ rest)))) = _ :=
    openTag_eq_ok_iff.mpr ⟨opening, _, rfl, opens, Nat.zero_lt_succ 31, rfl⟩
  rw [readError_of_opening wrapped, bind_eq opened, (takes_enumerated tellsClass).bind,
    (takes_enumerated tellsCode).bind]
  exact ⟨_, rfl⟩

theorem exists_of_readError {reader behind : Reader} {errorClass errorCode : UInt32}
    {wrapped : Bool} (opens : reader.nextIsOpening 0 = true)
    (reads : readError reader = .ok (errorClass, errorCode, wrapped) behind) :
    wrapped = true ∧ behind.opened = 0 :: reader.opened ∧ behind.maxDepth = reader.maxDepth ∧
      ∃ opening first second, reader.rest = opening ++ (first ++ (second ++ behind.rest)) ∧
        Tag.decode opening = .ok (.opening 0, opening.length) ∧
        Value.decode first = .ok (.enumerated errorClass, first.length) ∧
        Value.decode second = .ok (.enumerated errorCode, second.length) := by
  rw [readError_of_opening opens] at reads
  obtain ⟨_, inner, opened, reads⟩ := exists_of_bind reads
  obtain ⟨head, rest, whole, decoded, -, rfl⟩ := openTag_eq_ok_iff.mp opened
  obtain ⟨_, middle, tellsClass, reads⟩ := exists_of_bind reads
  obtain ⟨_, last, tellsCode, reads⟩ := exists_of_bind reads
  cases reads
  obtain ⟨first, firstRest, firstReads, firstOpened, firstLimit⟩ := exists_of_enumerated tellsClass
  obtain ⟨second, secondRest, secondReads, secondOpened, secondLimit⟩ :=
    exists_of_enumerated tellsCode
  refine ⟨rfl, secondOpened.trans firstOpened, secondLimit.trans firstLimit, head, first, second,
    ?_, decoded, firstReads, secondReads⟩
  rw [whole, ← secondRest, ← firstRest]

/-- An error in a constructed value is read if this is closed behind elements. -/
theorem Wraps.decodeError_eq {errorClass : ErrorClass} {errorCode : ErrorCode}
    {inside parameters : Octets} (wraps : Wraps errorClass errorCode inside parameters)
    {depth : Nat} (shallow : depth < defaultMaxDepth) (nested : Nested depth inside) :
    decodeError parameters = .ok (errorClass, errorCode) := by
  obtain ⟨trailing, opens, tellsClass, tellsCode, closes⟩ := wraps
  obtain ⟨position, head⟩ := readError_append opens tellsClass tellsCode (inside ++ (_ ++ trailing))
  obtain ⟨behind, closed⟩ := closeError_append nested shallow closes trailing position
  unfold decodeError
  rw [head]
  simp only [narrowError_toUInt32, bind, Except.bind, if_true, closed]

/-- Where the head of an error was read in a constructed value, the value is closed behind
elements. -/
theorem exists_wraps {parameters : Octets} {errorClass : ErrorClass} {errorCode : ErrorCode}
    (opens : (ofOctets parameters).nextIsOpening 0 = true)
    (reads : decodeError parameters = .ok (errorClass, errorCode)) :
    ∃ inside, Wraps errorClass errorCode inside parameters ∧
      Nested (defaultMaxDepth - 1) inside := by
  unfold decodeError at reads
  split at reads
  · cases reads
  · next first second wrapped reader head =>
    obtain ⟨rfl, opened, limit, opening, firstOctets, secondOctets, whole, opens, tellsClass,
      tellsCode⟩ := exists_of_readError opens head
    obtain ⟨narrowed, narrows, reads⟩ := exists_of_bind_eq_ok reads
    rw [if_pos rfl] at reads
    split at reads
    · cases reads
    · next last closed =>
      cases reads
      obtain ⟨rfl, rfl⟩ := narrowError_eq_ok_iff.mp narrows
      have room : reader.opened.length ≤ reader.maxDepth := by
        rw [opened, limit]
        exact Nat.succ_le_succ (Nat.zero_le _)
      obtain ⟨inside, closing, behind, nested, closes⟩ := exists_of_closeError closed room
      rw [opened, limit] at nested
      refine ⟨inside, ?_, nested⟩
      change parameters = _ at whole
      rw [whole, behind]
      exact .intro last.rest opens tellsClass tellsCode closes

/-- Behind its first three octets an error message consists of its parameters. -/
theorem decode_error {first : UInt8}
    (kind : ApduType.ofCode (Octets.field first 4 4) = .ok .error) (invokeId service : UInt8)
    (parameters : Octets) :
    decode (first :: invokeId :: service :: parameters) =
      (fun (errorClass, errorCode) => error invokeId service errorClass errorCode) <$>
        decodeError parameters := by
  rw [decode, kind]
  show (decodeError parameters >>= _) = _
  cases decodeError parameters <;> rfl

/-- An error class and an error code mean the same in a constructed value as they do bare, whatever
elements stand behind them there and whatever octets behind the value. If the parameters of an error
message open a constructed value, then this is what they hold or the message is refused, after no
more tags than there are octets. -/
theorem wrapped_error_as_bare {first : UInt8}
    (kind : ApduType.ofCode (Octets.field first 4 4) = .ok .error) (invokeId service : UInt8) :
    (∀ {errorClass errorCode inside parameters depth},
      Wraps errorClass errorCode inside parameters → depth ≤ 31 →
      validateNesting inside depth = .ok () →
      decode (first :: invokeId :: service :: parameters) =
          decode (first :: invokeId :: service :: errorOctets errorClass errorCode) ∧
        decode (first :: invokeId :: service :: errorOctets errorClass errorCode) =
          .ok (error invokeId service errorClass errorCode)) ∧
    ∀ {parameters}, (ofOctets parameters).nextIsOpening 0 = true →
      ((∃ errorClass errorCode inside, Wraps errorClass errorCode inside parameters ∧
          validateNesting inside 31 = .ok () ∧
          decode (first :: invokeId :: service :: parameters) =
            .ok (error invokeId service errorClass errorCode)) ∨
        (¬ ∃ errorClass errorCode inside, Wraps errorClass errorCode inside parameters ∧
          validateNesting inside 31 = .ok ()) ∧
        ∃ refusal, decode (first :: invokeId :: service :: parameters) = .error refusal) ∧
      ∀ {errorClass errorCode wrapped reader},
        readError (ofOctets parameters) = .ok (errorClass, errorCode, wrapped) reader →
        ∃ turns ≤ reader.rest.length,
          ClosingLoop 0 turns reader (skipUntilClosing 0 (reader.rest.length + 1) reader) := by
  have bare (errorClass : ErrorClass) (errorCode : ErrorCode) :
      decode (first :: invokeId :: service :: errorOctets errorClass errorCode) =
        .ok (error invokeId service errorClass errorCode) := by
    rw [decode_error kind, decodeError_errorOctets]
    rfl
  have wrapped {errorClass errorCode inside parameters depth}
      (wraps : Wraps errorClass errorCode inside parameters) (shallow : depth ≤ 31)
      (nested : validateNesting inside depth = .ok ()) :
      decode (first :: invokeId :: service :: parameters) =
        .ok (error invokeId service errorClass errorCode) := by
    rw [decode_error kind, wraps.decodeError_eq (Nat.lt_succ_of_le shallow)
      (validateNesting_eq_ok_iff.mp nested)]
    rfl
  refine ⟨fun wraps shallow nested => ?_, fun {parameters} opens => ⟨?_, fun _ => ?_⟩⟩
  · exact ⟨(wrapped wraps shallow nested).trans (bare _ _).symm, bare _ _⟩
  · cases result : decodeError parameters with
    | error refusal =>
      have refused := decode_error kind invokeId service parameters
      rw [result] at refused
      refine .inr ⟨?_, refusal, refused⟩
      rintro ⟨errorClass, errorCode, inside, wraps, nested⟩
      cases refused.symm.trans (wrapped wraps (Nat.le_refl _) nested)
    | ok found =>
      obtain ⟨errorClass, errorCode⟩ := found
      obtain ⟨inside, wraps, nested⟩ := exists_wraps opens result
      have accepted := validateNesting_eq_ok_iff.mpr nested
      exact .inl ⟨errorClass, errorCode, inside, wraps, accepted,
        wrapped wraps (Nat.le_refl _) accepted⟩
  · exact exists_closingLoop 0 (Nat.lt_succ_self _)

/-- In the way they are written, the two tags and the two values are such a constructed value. -/
theorem wraps_errorOctets (errorClass : ErrorClass) (errorCode : ErrorCode)
    (inside trailing : Octets) :
    Wraps errorClass errorCode inside
      (0x0E :: (errorOctets errorClass errorCode ++ (inside ++ 0x0F :: trailing))) := by
  have opens : Tag.decode [0x0E] = .ok (.opening 0, [(0x0E : UInt8)].length) := rfl
  have closes : Tag.decode [0x0F] = .ok (.closing 0, [(0x0F : UInt8)].length) := rfl
  have wraps : Wraps errorClass errorCode inside _ :=
    .intro trailing opens (decode_encodeEnumerated _) (decode_encodeEnumerated _) closes
  rwa [← List.append_assoc (encodeEnumerated _), List.singleton_append, List.singleton_append]
    at wraps

end

open scoped Chart

/-- The constructed value holds another one of the same number, whose closing tag does not end it,
and octets stand behind it with which no element begins. -/
theorem wrapped_error_as_bare_of_inner_brackets :
    decode [0x50, 7, 15, 0x0E, 0x91, 2, 0x91, 31, 0x0E, 0x21, 5, 0x0F, 0x0F, 0xF9, 0xFF] =
        decode [0x50, 7, 15, 0x91, 2, 0x91, 31] ∧
      decode [0x50, 7, 15, 0x91, 2, 0x91, 31] = .ok (error 7 15 ⟨2⟩ ⟨31⟩) := by
  have kind : ApduType.ofCode (Octets.field 0x50 4 4) = .ok .error := rfl
  have wraps : Wraps ⟨2⟩ ⟨31⟩ [0x0E, 0x21, 5, 0x0F]
      [0x0E, 0x91, 2, 0x91, 31, 0x0E, 0x21, 5, 0x0F, 0x0F, 0xF9, 0xFF] :=
    wraps_errorOctets ⟨2⟩ ⟨31⟩ [0x0E, 0x21, 5, 0x0F] [0xF9, 0xFF]
  have nested : validateNesting [0x0E, 0x21, 5, 0x0F] 31 = .ok () := rfl
  have bare : errorOctets ⟨2⟩ ⟨31⟩ = [0x91, 2, 0x91, 31] := rfl
  have same := (wrapped_error_as_bare kind 7 15).1 wraps (Nat.le_refl 31) nested
  rwa [bare] at same

end Apdu

end BACnet
