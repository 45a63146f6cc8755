import BACnet.Link.Mstp
import BACnet.Proofs.Link.Crc
import BACnet.Proofs.Octets.Reading

/-!
# Frames of the serial link and their octets

A frame is read from exactly the octets that are written for it (`MstpFrame.encode_of_decode`,
`MstpFrame.decode_of_encode`): there is no slack in the length, in the checks or behind the frame.
The octets of two frames differ in more than one place (`MstpFrame.not_oneOff_encode`), since the
head and the data carry a check each. So a frame of which one octet has been changed is never read
as another one (`MstpFrame.codec_and_corruption`).
-/

namespace BACnet

namespace MstpFrameType

/-- The frame type of an octet is the one whose octet it is. -/
theorem ofCode_eq_ok_iff {code : UInt8} {type : MstpFrameType} :
    ofCode code = .ok type ↔ type.code = code := by
  constructor
  · intro reads
    unfold ofCode at reads
    split at reads <;> cases reads <;> exact UInt8.toNat_inj.mp (Eq.symm ‹_›)
  · rintro rfl
    cases type <;> rfl

/-- An octet that is no frame type is malformed. -/
theorem malformed_ofCode (code : UInt8) :
    FailsOnly (fun error => error.kind = .malformedPdu) (ofCode code) := by
  unfold ofCode
  split <;> first | exact .ok _ | exact .error rfl

end MstpFrameType

namespace MstpFrame

/-! ## The data -/

theorem encodeData_of_ne_nil {data : Octets} (some : data ≠ []) :
    encodeData data = data ++ (Octets.ofWord16 (dataCrc data)).reverse := by
  unfold encodeData
  rw [if_neg (by simpa using some)]

/-- Data are read from the octets that are written for them, if there are as many as announced. -/
theorem decodeData_eq_ok_iff {length : Nat} {rest data behind : Octets} :
    decodeData length rest = .ok (data, behind) ↔
      data.length = length ∧ rest = encodeData data ++ behind := by
  unfold decodeData
  split
  · next none =>
    rw [none, List.length_eq_zero_iff]
    constructor
    · intro reads
      cases reads
      exact ⟨rfl, rfl⟩
    · rintro ⟨rfl, rfl⟩
      rfl
  · next some =>
    constructor
    · intro reads
      split at reads
      · next taken low high others takes behindThem =>
        obtain ⟨counts, whole⟩ := Octets.append_of_take? takes
        dsimp only at reads
        split at reads
        · next sound =>
          cases reads
          have nonempty : data ≠ [] := by
            rintro rfl
            exact some counts.symm
          refine ⟨counts, ?_⟩
          rw [encodeData_of_ne_nil nonempty, ← sound, Octets.ofWord16_word16, whole, behindThem]
          simp
        · cases reads
      · cases reads
    · rintro ⟨rfl, rfl⟩
      have nonempty : data ≠ [] := by
        rintro rfl
        exact some rfl
      obtain ⟨high, low, spells, word⟩ := Octets.exists_ofWord16 (dataCrc data)
      have written : encodeData data ++ behind = data ++ low :: high :: behind := by
        rw [encodeData_of_ne_nil nonempty, spells]
        simp
      rw [written, Octets.take?_append, List.drop_left]
      dsimp only
      rw [word, if_pos rfl]

/-! ## Frames -/

/-- The two octets that announce a number of data octets. -/
theorem exists_announced {count : Nat} (fits : count ≤ maxDataLength) :
    ∃ high low, Octets.bigEndian 2 count = [high, low] ∧
      (Octets.word16 high low).toNat = count := by
  have small : (UInt16.ofNat count).toNat = count := by
    rw [UInt16.toNat_ofNat']
    exact Nat.mod_eq_of_lt (Nat.lt_of_le_of_lt fits (by decide))
  obtain ⟨high, low, spells, word⟩ := Octets.exists_ofWord16 (UInt16.ofNat count)
  refine ⟨high, low, ?_, ?_⟩
  · rw [← spells, Octets.ofWord16, small]
  · rw [word, small]

theorem encode_eq_ok_iff {frame : MstpFrame} {octets : Octets} :
    frame.encode = .ok octets ↔ frame.data.length ≤ maxDataLength ∧
      octets =
        [0x55, 0xFF] ++ (frame.header ++ [headerCrc frame.header] ++ encodeData frame.data) := by
  unfold encode
  split
  · next long => exact ⟨nofun, fun ⟨short, _⟩ => absurd short (Nat.not_le_of_lt long)⟩
  · next short =>
    constructor
    · intro writes
      cases writes
      exact ⟨Nat.le_of_not_lt short, rfl⟩
    · rintro ⟨-, rfl⟩
      rfl

/-- A frame is written if and only if its data are not too long. -/
theorem encode_eq_error_iff {frame : MstpFrame} :
    (∃ error, frame.encode = .error error) ↔ maxDataLength < frame.data.length := by
  unfold encode
  split
  · next long => exact ⟨fun _ => long, fun _ => ⟨_, rfl⟩⟩
  · next short => exact ⟨nofun, fun long => absurd long short⟩

/-- A sound head is followed by as many data octets as it announces, if a frame carries so many, and
by nothing else. -/
theorem decodeFrame_of_sound (type : MstpFrameType) (destination source high low : UInt8)
    (rest : Octets) :
    decodeFrame (type.code :: destination :: source :: high :: low ::
        headerCrc [type.code, destination, source, high, low] :: rest) =
      if maxDataLength < (Octets.word16 high low).toNat then
        .error (.frameTooLarge (Octets.word16 high low).toNat)
      else
        decodeData (Octets.word16 high low).toNat rest >>= fun (data, behind) =>
          if behind.isEmpty then .ok ⟨type, destination, source, data⟩
          else .error (.invalidFrame (.mstpTrailing behind.length)) := by
  unfold decodeFrame
  dsimp only
  rw [if_neg fun differ => differ rfl, MstpFrameType.ofCode_eq_ok_iff.mpr rfl]
  rfl

/-- A head that is not sound is refused as malformed, whatever follows it. -/
theorem decodeFrame_malformed_or_sound (type destination source high low check : UInt8)
    (rest : Octets) :
    (∃ error, decodeFrame (type :: destination :: source :: high :: low :: check :: rest) =
        .error error ∧ error.kind = .malformedPdu) ∨
      check = headerCrc [type, destination, source, high, low] ∧
        ∃ frameType : MstpFrameType, frameType.code = type := by
  unfold decodeFrame
  dsimp only
  by_cases sound : check = headerCrc [type, destination, source, high, low]
  · rw [if_neg fun differ => differ sound]
    cases known : MstpFrameType.ofCode type with
    | ok frameType => exact .inr ⟨sound, frameType, MstpFrameType.ofCode_eq_ok_iff.mp known⟩
    | error error => exact .inl ⟨error, rfl, MstpFrameType.malformed_ofCode type error known⟩
  · rw [if_pos sound]
    exact .inl ⟨_, rfl, rfl⟩

theorem decodeFrame_eq_ok_iff {type destination source high low check : UInt8} {rest : Octets}
    {frame : MstpFrame} :
    decodeFrame (type :: destination :: source :: high :: low :: check :: rest) = .ok frame ↔
      check = headerCrc [type, destination, source, high, low] ∧
      (Octets.word16 high low).toNat ≤ maxDataLength ∧
      decodeData (Octets.word16 high low).toNat rest = .ok (frame.data, []) ∧
      frame.frameType.code = type ∧ frame.destination = destination ∧ frame.source = source := by
  constructor
  · intro reads
    obtain ⟨error, refused, -⟩ | ⟨rfl, frameType, rfl⟩ :=
      decodeFrame_malformed_or_sound type destination source high low check rest
    · rw [reads] at refused
      cases refused
    · rw [decodeFrame_of_sound] at reads
      split at reads
      · cases reads
      · next short =>
        obtain ⟨⟨data, behind⟩, carries, reads⟩ := exists_of_bind_eq_ok reads
        dsimp only at reads
        split at reads
        · next ends =>
          cases reads
          obtain rfl := List.isEmpty_iff.mp ends
          exact ⟨rfl, Nat.le_of_not_lt short, carries, rfl, rfl, rfl⟩
        · cases reads
  · rintro ⟨rfl, short, carries, rfl, rfl, rfl⟩
    rw [decodeFrame_of_sound, if_neg (Nat.not_lt_of_le short), carries]
    rfl

theorem decode_preamble (rest : Octets) : decode (0x55 :: 0xFF :: rest) = decodeFrame rest :=
  if_pos rfl

/-- What does not begin with the preamble is refused for that. -/
theorem begins_or_decode_eq_error (data : Octets) :
    (∃ rest, data = 0x55 :: 0xFF :: rest) ∨
      decode data = .error (.invalidFrame .mstpPreamble) := by
  unfold decode
  split
  · next preamble =>
    refine .inl ⟨data.drop 2, ?_⟩
    rw [← List.take_append_drop 2 data, preamble]
    rfl
  · exact .inr rfl

/-- What ends before the check of the head is refused as cut short. -/
theorem head_or_decodeFrame_eq_error (data : Octets) :
    (∃ type destination source high low check rest,
        data = type :: destination :: source :: high :: low :: check :: rest) ∨
      decodeFrame data = .error (.invalidFrame .mstpTruncated) := by
  unfold decodeFrame
  split
  · exact .inl ⟨_, _, _, _, _, _, _, rfl⟩
  · exact .inr rfl

theorem encode_of_decode {octets : Octets} {frame : MstpFrame}
    (reads : decode octets = .ok frame) : frame.encode = .ok octets := by
  obtain ⟨behind, rfl⟩ | refused := begins_or_decode_eq_error octets
  · rw [decode_preamble] at reads
    obtain ⟨type, destination, source, high, low, check, rest, rfl⟩ | refused :=
      head_or_decodeFrame_eq_error behind
    · obtain ⟨rfl, short, carries, rfl, rfl, rfl⟩ := decodeFrame_eq_ok_iff.mp reads
      obtain ⟨announced, rfl⟩ := decodeData_eq_ok_iff.mp carries
      have head : frame.header =
          [frame.frameType.code, frame.destination, frame.source, high, low] := by
        rw [header, announced]
        exact congrArg (_ :: _ :: _ :: ·) (Octets.ofWord16_word16 high low)
      refine encode_eq_ok_iff.mpr ⟨announced ▸ short, ?_⟩
      rw [head, List.append_nil]
      rfl
    · cases refused.symm.trans reads
  · cases refused.symm.trans reads

theorem decode_of_encode {octets : Octets} {frame : MstpFrame}
    (writes : frame.encode = .ok octets) : decode octets = .ok frame := by
  obtain ⟨fits, rfl⟩ := encode_eq_ok_iff.mp writes
  obtain ⟨high, low, spells, word⟩ := exists_announced fits
  have head : frame.header =
      [frame.frameType.code, frame.destination, frame.source, high, low] := by
    rw [header, spells]
    rfl
  rw [head, List.cons_append, List.cons_append, List.nil_append, decode_preamble]
  refine decodeFrame_eq_ok_iff.mpr ⟨rfl, word ▸ fits, ?_, rfl, rfl, rfl⟩
  exact decodeData_eq_ok_iff.mpr ⟨word.symm, (List.append_nil _).symm⟩

/-! ## One octet -/

theorem length_header_eq (frame other : MstpFrame) : frame.header.length = other.header.length :=
  rfl

/-- The head tells how many data octets there are. -/
theorem length_eq_of_header_eq {frame other : MstpFrame} (fits : frame.data.length ≤ maxDataLength)
    (fitsOther : other.data.length ≤ maxDataLength) (same : frame.header = other.header) :
    frame.data.length = other.data.length := by
  have announced := congrArg Octets.ofBigEndian (List.append_inj same rfl).2
  have small : maxDataLength < 1 <<< (8 * 2) := by decide
  rw [Octets.ofBigEndian_bigEndian, Octets.ofBigEndian_bigEndian,
    Nat.mod_eq_of_lt (Nat.lt_of_le_of_lt fits small),
    Nat.mod_eq_of_lt (Nat.lt_of_le_of_lt fitsOther small)] at announced
  exact announced

/-- Heads with their checks do not differ in one place alone. -/
theorem not_oneOff_header (frame other : MstpFrame) :
    ¬ OneOff (frame.header ++ [headerCrc frame.header])
      (other.header ++ [headerCrc other.header]) :=
  OneOff.not_of_check (fun head => [headerCrc head])
    (fun differ same => headerCrc_ne differ (List.cons.inj same).1) (length_header_eq frame other)

/-- Data of the same length, with their checks, do not differ in one place alone. -/
theorem not_oneOff_encodeData {data other : Octets} (lengths : data.length = other.length) :
    ¬ OneOff (encodeData data) (encodeData other) := by
  by_cases empty : data = []
  · subst empty
    obtain rfl := List.eq_nil_of_length_eq_zero lengths.symm
    exact fun oneOff => oneOff.ne rfl
  · have nonempty : other ≠ [] := by
      rintro rfl
      exact empty (List.eq_nil_of_length_eq_zero lengths)
    rw [encodeData_of_ne_nil empty, encodeData_of_ne_nil nonempty]
    exact OneOff.not_of_check (fun data => (Octets.ofWord16 (dataCrc data)).reverse)
      (fun differ same => dataCrc_ne differ
        (Octets.ofWord16_injective (List.reverse_inj.mp same))) lengths

/-- The octets of two frames do not differ in one place alone. -/
theorem not_oneOff_encode {frame other : MstpFrame} {octets others : Octets}
    (writes : frame.encode = .ok octets) (writesOther : other.encode = .ok others) :
    ¬ OneOff octets others := by
  obtain ⟨fits, rfl⟩ := encode_eq_ok_iff.mp writes
  obtain ⟨fitsOther, rfl⟩ := encode_eq_ok_iff.mp writesOther
  have sizes : (frame.header ++ [headerCrc frame.header]).length =
      (other.header ++ [headerCrc other.header]).length := by
    rw [List.length_append, List.length_append, List.length_singleton, List.length_singleton,
      length_header_eq frame other]
  intro oneOff
  obtain ⟨preamble, -⟩ | ⟨-, behind⟩ := oneOff.append rfl
  · exact preamble.ne rfl
  · obtain ⟨heads, -⟩ | ⟨heads, inData⟩ := behind.append sizes
    · exact not_oneOff_header frame other heads
    · have same := (List.append_inj heads rfl).1
      exact not_oneOff_encodeData (length_eq_of_header_eq fits fitsOther same) inData

/-- Frames and the octets that are read as frames correspond to each other: a frame is written
unless its data are too long, what is written is read as the frame, and what is read as a frame is
what is written for it. Whatever one octet of a written frame is replaced by, the result is
refused. -/
theorem codec_and_corruption :
    (∀ frame : MstpFrame, frame.data.length ≤ maxDataLength →
      ∃ octets, frame.encode = .ok octets ∧ decode octets = .ok frame) ∧
    (∀ frame : MstpFrame,
      (∃ error, frame.encode = .error error) ↔ maxDataLength < frame.data.length) ∧
    (∀ octets frame, decode octets = .ok frame → frame.encode = .ok octets) ∧
    ∀ (frame : MstpFrame) (front : Octets) (octet : UInt8) (back : Octets) (other : UInt8),
      frame.encode = .ok (front ++ octet :: back) → other ≠ octet →
        ∃ error, decode (front ++ other :: back) = .error error := by
  refine ⟨fun frame fits => ?_, fun _ => encode_eq_error_iff, fun _ _ => encode_of_decode,
    fun frame front octet back other writes differ => ?_⟩
  · have writes := encode_eq_ok_iff.mpr ⟨fits, rfl⟩
    exact ⟨_, writes, decode_of_encode writes⟩
  · cases corrupted : decode (front ++ other :: back) with
    | error error => exact ⟨error, rfl⟩
    | ok read =>
      exact absurd (.replace differ.symm front back)
        (not_oneOff_encode writes (encode_of_decode corrupted))

/-- A frame with three data octets, of which the second one has been changed. -/
theorem codec_and_corruption_of_data_frame :
    (MstpFrame.mk .bacnetDataNotExpectingReply 255 3 [1, 2, 3]).encode =
        .ok [0x55, 0xFF, 6, 255, 3, 0, 3, 0x4E, 1, 2, 3, 0x3B, 0x9D] ∧
      ∃ error, decode [0x55, 0xFF, 6, 255, 3, 0, 3, 0x4E, 1, 0x12, 3, 0x3B, 0x9D] =
        .error error := by
  have writes : (MstpFrame.mk .bacnetDataNotExpectingReply 255 3 [1, 2, 3]).encode =
      .ok [0x55, 0xFF, 6, 255, 3, 0, 3, 0x4E, 1, 2, 3, 0x3B, 0x9D] :=
    encode_eq_ok_iff.mpr ⟨by decide, by decide +kernel⟩
  exact ⟨writes, codec_and_corruption.2.2.2 _ [0x55, 0xFF, 6, 255, 3, 0, 3, 0x4E, 1] 2
    [3, 0x3B, 0x9D] 0x12 writes (by decide)⟩

end MstpFrame

end BACnet
