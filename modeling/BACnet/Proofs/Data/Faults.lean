import BACnet.Data.Value
import BACnet.Proofs.Octets.Reading

/-!
# Why elements are refused

A reader of elements blames the octets, never its caller: whatever it refuses is malformed
(`Tag.malformed_decode`, `Value.malformed_decode`, `Value.malformed_decodeContext`). Of the errors
of this layer only that of a value without an encoding is of another kind, and no reader has it.
-/

namespace BACnet

/-- What cannot be read is malformed. -/
def Malformed {α : Type} (result : Except DataError α) : Prop :=
  FailsOnly (fun error => error.kind = .malformedPdu) result

/-! ## Tags -/

theorem Tag.malformed_decodeNumber (first : UInt8) (rest : Octets) :
    Malformed (Tag.decodeNumber first rest) := by
  unfold Tag.decodeNumber
  split
  · split
    · exact .error rfl
    · split
      · exact .error rfl
      · exact .ok _
  · exact .ok _

theorem Tag.malformed_decodeKind (tagClass : TagClass) (number : UInt8) (field : Nat)
    (rest : Octets) (used available : Nat) :
    Malformed (Tag.decodeKind tagClass number field rest used available) := by
  unfold Tag.decodeKind
  split
  · split
    · exact .ok _
    · exact .error rfl
  · split
    · exact .ok _
    · cases tagClass with
      | application => exact .error rfl
      | context => exact .ok _

theorem Tag.malformed_checkBoolean (tag : Tag) : Malformed tag.checkBoolean := by
  unfold Tag.checkBoolean
  split
  · split
    · exact .error rfl
    · exact .ok _
  · exact .ok _

theorem Tag.malformed_decode (data : Octets) : Malformed (Tag.decode data) := by
  cases data with
  | nil => exact .error rfl
  | cons first rest =>
    exact .bind (Tag.malformed_decodeNumber _ _) fun _ _ =>
      .bind (Tag.malformed_decodeKind _ _ _ _ _ _) fun _ _ =>
        .bind (Tag.malformed_checkBoolean _) fun _ _ => .ok _

theorem malformed_decodeApplicationTag (data : Octets) : Malformed (decodeApplicationTag data) := by
  refine .bind (Tag.malformed_decode data) fun _ _ => ?_
  dsimp only
  split
  · refine .bind ?_ fun _ _ => .ok _
    unfold DataType.ofNumber
    split
    · exact .ok _
    · exact .error rfl
  · exact .error rfl

theorem malformed_decodeContextTag (data : Octets) (number : UInt8) :
    Malformed (decodeContextTag data number) := by
  refine .bind (Tag.malformed_decode data) fun _ _ => ?_
  dsimp only
  split
  · exact .ok _
  · exact .error rfl

/-! ## Contents -/

theorem malformed_content (data : Octets) (offset length : Nat) :
    Malformed (content data offset length) := by
  unfold content
  split
  · exact .ok _
  · exact .error rfl

theorem CharacterString.malformed_decodeUcs4 :
    ∀ octets : Octets, Malformed (CharacterString.decodeUcs4 octets)
  | _ :: _ :: _ :: _ :: rest => by
    unfold CharacterString.decodeUcs4
    exact .ite (.bind (malformed_decodeUcs4 rest) fun _ _ => .ok _) (.error rfl)
  | [] | [_] | [_, _] | [_, _, _] => .ok _

theorem CharacterString.malformed_decodeUcs2 :
    ∀ octets : Octets, Malformed (CharacterString.decodeUcs2 octets)
  | _ :: _ :: rest => by
    unfold CharacterString.decodeUcs2
    exact .ite (.bind (malformed_decodeUcs2 rest) fun _ _ => .ok _) (.error rfl)
  | [] | [_] => .ok _

theorem CharacterString.malformed_codePageEncoding (codePage : UInt16) :
    Malformed (CharacterString.codePageEncoding codePage) := by
  unfold CharacterString.codePageEncoding
  split
  case h_5 => exact .error rfl
  all_goals exact .ok _

theorem BitString.malformed_decodeContent (octets : Octets) :
    Malformed (BitString.decodeContent octets) := by
  unfold BitString.decodeContent
  split
  · exact .error rfl
  · unfold BitString.ofOctets
    split
    · exact .error rfl
    · exact .ok _

variable [TextCodec]

theorem CharacterString.malformed_decodeDoubleByte (octets : Octets) :
    Malformed (CharacterString.decodeDoubleByte octets) := by
  unfold CharacterString.decodeDoubleByte
  split
  · refine .bind (CharacterString.malformed_codePageEncoding _) fun _ _ => ?_
    split
    · exact .ok _
    · exact .error rfl
  · exact .error rfl

theorem CharacterString.malformed_decodeJis (octets : Octets) :
    Malformed (CharacterString.decodeJis octets) := by
  unfold CharacterString.decodeJis
  split
  · exact .error rfl
  · split
    · exact .ok _
    · exact .error rfl

theorem CharacterString.malformed_decodeContent (octets : Octets) :
    Malformed (CharacterString.decodeContent octets) := by
  unfold CharacterString.decodeContent
  split
  · exact .error rfl
  · split
    · split
      · exact .ok _
      · exact .error rfl
    · exact CharacterString.malformed_decodeDoubleByte _
    · exact .bind (CharacterString.malformed_decodeJis _) fun _ _ => .ok _
    · split
      · exact .error rfl
      · exact .bind (CharacterString.malformed_decodeUcs4 _) fun _ _ => .ok _
    · split
      · exact .error rfl
      · exact .bind (CharacterString.malformed_decodeUcs2 _) fun _ _ => .ok _
    · exact .ok _
    · exact .error rfl

/-- A content that does not form a value of its type is malformed. -/
theorem Value.malformed_ofContent (type : DataType) (octets : Octets) :
    Malformed (Value.ofContent type octets) := by
  cases type with
  | null => exact .ite (.ok _) (.error rfl)
  | boolean =>
    refine .map ?_ _
    unfold Value.decodeBooleanContent
    split
    · exact .ok _
    · exact .error rfl
  | unsigned | signed | enumerated =>
    refine .map ?_ _
    exact .ite (.error rfl) (.ok _)
  | real =>
    refine .map ?_ _
    unfold Value.decodeRealContent
    split
    · exact .ok _
    · exact .error rfl
  | double =>
    refine .map ?_ _
    exact .ite (.ok _) (.error rfl)
  | octetString => exact .ok _
  | characterString => exact .map (CharacterString.malformed_decodeContent octets) _
  | bitString => exact .map (BitString.malformed_decodeContent octets) _
  | date =>
    refine .map ?_ _
    unfold Date.decodeContent
    split
    · exact .ok _
    · exact .error rfl
  | time =>
    refine .map ?_ _
    unfold TimeOfDay.decodeContent
    split
    · exact .ok _
    · exact .error rfl
  | objectIdentifier =>
    refine .map ?_ _
    unfold ObjectIdentifier.decodeContent
    split
    · exact .ok _
    · exact .error rfl

/-! ## Values -/

theorem Value.malformed_decode (data : Octets) : Malformed (Value.decode data) := by
  refine .bind (malformed_decodeApplicationTag data) fun _ _ => ?_
  exact .ite (.ok _) (.bind (malformed_content _ _ _) fun _ _ =>
    .bind (Value.malformed_ofContent _ _) fun _ _ => .ok _)

theorem Value.malformed_decodeContext (data : Octets) (number : UInt8) (type : DataType) :
    Malformed (Value.decodeContext data number type) :=
  .bind (malformed_decodeContextTag data number) fun _ _ =>
    .bind (malformed_content _ _ _) fun _ _ =>
      .bind (Value.malformed_ofContent _ _) fun _ _ => .ok _

end BACnet
