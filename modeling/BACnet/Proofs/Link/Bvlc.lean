import BACnet.Link.Bvlc
import BACnet.Proofs.Octets.Reading

/-!
# Frames of BACnet/IP and their octets

A message is written unless its frame is too long for the length field, and what is written is read
back (`BvlcMessage.read_back_unless_too_long`). What is read was written in the same way, with one
exception: behind the head of a request for a table, which has no fields, stray octets are passed
over (`BvlcMessage.accepted_iff`, `BvlcMessage.stray_octets_accepted`).
-/

namespace BACnet

/-! ## Heads -/

/-- The function of an octet is the one whose octet it is. -/
theorem BvlcFunction.ofCode_eq_ok_iff {code : UInt8} {function : BvlcFunction} :
    ofCode code = .ok function ↔ function.code = code := by
  constructor
  · intro reads
    unfold ofCode at reads
    split at reads <;> cases reads <;> exact UInt8.toNat_inj.mp (Eq.symm ‹_›)
  · rintro rfl
    cases function <;> rfl

/-- A head is read where its octets stand, whatever follows them. -/
theorem BvlcHeader.decode_eq_ok_iff {data : Octets} {header : BvlcHeader} :
    decode data = .ok header ↔ ∃ behind, data = header.encode ++ behind := by
  constructor
  · intro reads
    unfold decode at reads
    split at reads
    · cases reads
    · split at reads
      · next known =>
        split at reads
        · cases reads
        · obtain ⟨function, codes, reads⟩ := exists_of_bind_eq_ok reads
          split at reads
          · next high low behind _ =>
            cases reads
            refine ⟨behind, ?_⟩
            rw [encode, BvlcFunction.ofCode_eq_ok_iff.mp codes, Octets.ofWord16_word16, known]
            rfl
          · cases reads
      · cases reads
  · rintro ⟨behind, rfl⟩
    obtain ⟨function, length⟩ := header
    obtain ⟨high, low, octets, spells⟩ := Octets.exists_ofWord16 length
    rw [encode, octets]
    show (BvlcFunction.ofCode function.code >>= _) = _
    rw [BvlcFunction.ofCode_eq_ok_iff.mpr rfl, ← spells]
    rfl

theorem BvlcHeader.length_encode (header : BvlcHeader) : header.encode.length = 4 :=
  congrArg (· + 2) (Octets.length_bigEndian 2 _)

/-! ## Addresses -/

theorem SocketAddress.toMac_word16 (a b c d high low : UInt8) :
    toMac ⟨a, b, c, d, Octets.word16 high low⟩ = [a, b, c, d, high, low] := by
  rw [toMac, Octets.ofWord16_word16]
  rfl

/-- The six octets of an address, which spell the address. -/
theorem SocketAddress.exists_toMac (address : SocketAddress) :
    ∃ a b c d high low, address.toMac = [a, b, c, d, high, low] ∧
      address = ⟨a, b, c, d, Octets.word16 high low⟩ := by
  obtain ⟨a, b, c, d, port⟩ := address
  obtain ⟨high, low, octets, rfl⟩ := Octets.exists_ofWord16 port
  exact ⟨a, b, c, d, high, low, toMac_word16 a b c d high low, rfl⟩

theorem SocketAddress.length_toMac (address : SocketAddress) : address.toMac.length = 6 := by
  obtain ⟨a, b, c, d, high, low, octets, -⟩ := address.exists_toMac
  rw [octets]
  rfl

/-! ## Tables -/

/-- A table is read line by line, up to the end of the octets. -/
structure TableCodec {α : Type} (encode : α → Octets) (decode : Octets → Option (List α)) :
    Prop where
  empty : decode [] = some []
  line (entry : α) (rest : Octets) :
    decode (encode entry ++ rest) = (decode rest).map (entry :: ·)
  /-- Octets that do not begin with a line are no table. -/
  begins (octets : Octets) : decode octets ≠ none →
    octets = [] ∨ ∃ entry rest, octets = encode entry ++ rest
  length (entry : α) : (encode entry).length = 10

/-- A table is read from exactly the octets of its lines. -/
theorem TableCodec.decode_eq_some_iff {α : Type} {encode : α → Octets}
    {decode : Octets → Option (List α)} (codec : TableCodec encode decode) {octets : Octets}
    {entries : List α} : decode octets = some entries ↔ entries.flatMap encode = octets := by
  constructor
  · intro reads
    induction size : octets.length using Nat.strongRecOn generalizing octets entries with
    | ind length ih =>
      obtain rfl | ⟨entry, rest, rfl⟩ := codec.begins octets (reads ▸ Option.some_ne_none _)
      · cases codec.empty.symm.trans reads
        rfl
      · rw [codec.line] at reads
        obtain ⟨others, inner, rfl⟩ := Option.map_eq_some_iff.mp reads
        have shorter : rest.length < length := by
          rw [← size, List.length_append, codec.length]
          omega
        rw [List.flatMap_cons, ih _ shorter inner rfl]
  · rintro rfl
    induction entries with
    | nil => exact codec.empty
    | cons entry others ih => rw [List.flatMap_cons, codec.line, ih, Option.map_some]

theorem TableCodec.length_flatMap {α : Type} {encode : α → Octets}
    {decode : Octets → Option (List α)} (codec : TableCodec encode decode) (entries : List α) :
    (entries.flatMap encode).length = 10 * entries.length := by
  induction entries with
  | nil => rfl
  | cons entry others ih =>
    rw [List.flatMap_cons, List.length_append, ih, codec.length, List.length_cons]
    omega

namespace BvlcMessage

theorem tableCodec_broadcast : TableCodec encodeBroadcastEntry decodeBroadcastEntries? where
  empty := by rw [decodeBroadcastEntries?]
  line entry rest := by
    obtain ⟨address, mask⟩ := entry
    obtain ⟨a, b, c, d, high, low, mac, rfl⟩ := address.exists_toMac
    obtain ⟨m1, m2, m3, m4, octets, rfl⟩ := Octets.exists_ofWord32 mask
    rw [encodeBroadcastEntry, mac, octets]
    simp only [List.cons_append, List.nil_append, decodeBroadcastEntries?]
  begins octets := by
    fun_cases decodeBroadcastEntries? octets with
    | case1 => exact fun _ => .inl rfl
    | case2 a b c d high low m1 m2 m3 m4 rest =>
      refine fun _ => .inr ⟨⟨⟨a, b, c, d, Octets.word16 high low⟩, Octets.word32 m1 m2 m3 m4⟩,
        rest, ?_⟩
      rw [encodeBroadcastEntry, SocketAddress.toMac_word16, Octets.ofWord32_word32]
      rfl
    | case3 => exact fun some => absurd rfl some
  length entry := by
    rw [encodeBroadcastEntry, List.length_append, SocketAddress.length_toMac, Octets.ofWord32,
      Octets.length_bigEndian]

theorem tableCodec_foreign : TableCodec encodeForeignEntry decodeForeignEntries? where
  empty := by rw [decodeForeignEntries?]
  line entry rest := by
    obtain ⟨address, timeToLive, remaining⟩ := entry
    obtain ⟨a, b, c, d, high, low, mac, rfl⟩ := address.exists_toMac
    obtain ⟨t1, t2, total, rfl⟩ := Octets.exists_ofWord16 timeToLive
    obtain ⟨r1, r2, left, rfl⟩ := Octets.exists_ofWord16 remaining
    rw [encodeForeignEntry, mac, total, left]
    simp only [List.cons_append, List.nil_append, decodeForeignEntries?]
  begins octets := by
    fun_cases decodeForeignEntries? octets with
    | case1 => exact fun _ => .inl rfl
    | case2 a b c d high low t1 t2 r1 r2 rest =>
      refine fun _ => .inr ⟨⟨⟨a, b, c, d, Octets.word16 high low⟩, Octets.word16 t1 t2,
        Octets.word16 r1 r2⟩, rest, ?_⟩
      rw [encodeForeignEntry, SocketAddress.toMac_word16, Octets.ofWord16_word16,
        Octets.ofWord16_word16]
      rfl
    | case3 => exact fun some => absurd rfl some
  length entry := by
    rw [encodeForeignEntry, List.length_append, List.length_append, SocketAddress.length_toMac,
      Octets.ofWord16, Octets.ofWord16, Octets.length_bigEndian, Octets.length_bigEndian]

theorem orInvalid_eq_ok_iff {α : Type} {part : BvlcPart} {found : Option α} {value : α} :
    orInvalid part found = .ok value ↔ found = some value := by
  cases found <;> simp [orInvalid]

/-! ## Bodies -/

/-- The message asks for a table, so that its function has no fields. -/
def AsksForTable (message : BvlcMessage) : Prop :=
  message = readBroadcastDistributionTable ∨ message = readForeignDeviceTable

/-- A message is read from the octets of its fields, and a request for a table from any octets. -/
theorem decodeBody_eq_ok_iff {function : BvlcFunction} {data : Octets} {message : BvlcMessage} :
    decodeBody function data = .ok message ↔
      message.function = function ∧ (message.body = data ∨ message.AsksForTable) := by
  constructor
  · intro reads
    cases function with
    | result | registerForeignDevice =>
      unfold decodeBody at reads
      dsimp only at reads
      split at reads <;> cases reads
      exact ⟨rfl, .inl (Octets.ofWord16_word16 _ _)⟩
    | forwardedNpdu =>
      unfold decodeBody at reads
      dsimp only at reads
      split at reads <;> cases reads
      exact ⟨rfl, .inl (congrArg (· ++ _) (SocketAddress.toMac_word16 ..))⟩
    | deleteForeignDeviceTableEntry =>
      unfold decodeBody at reads
      dsimp only at reads
      split at reads <;> cases reads
      exact ⟨rfl, .inl (SocketAddress.toMac_word16 ..)⟩
    | writeBroadcastDistributionTable | readBroadcastDistributionTableAck =>
      obtain ⟨entries, found, rfl⟩ := exists_of_map_eq_ok reads
      exact ⟨rfl, .inl (tableCodec_broadcast.decode_eq_some_iff.mp (orInvalid_eq_ok_iff.mp found))⟩
    | readForeignDeviceTableAck =>
      obtain ⟨entries, found, rfl⟩ := exists_of_map_eq_ok reads
      exact ⟨rfl, .inl (tableCodec_foreign.decode_eq_some_iff.mp (orInvalid_eq_ok_iff.mp found))⟩
    | readBroadcastDistributionTable =>
      cases reads
      exact ⟨rfl, .inr (.inl rfl)⟩
    | readForeignDeviceTable =>
      cases reads
      exact ⟨rfl, .inr (.inr rfl)⟩
    | distributeBroadcastToNetwork | originalUnicastNpdu | originalBroadcastNpdu | secureBvll =>
      cases reads
      exact ⟨rfl, .inl rfl⟩
  · rintro ⟨rfl, rfl | rfl | rfl⟩
    · cases message with
      | result code =>
        obtain ⟨word⟩ := code
        obtain ⟨high, low, octets, rfl⟩ := Octets.exists_ofWord16 word
        rw [body, octets]
        rfl
      | registerForeignDevice timeToLive =>
        obtain ⟨high, low, octets, rfl⟩ := Octets.exists_ofWord16 timeToLive
        rw [body, octets]
        rfl
      | forwardedNpdu address npdu | deleteForeignDeviceTableEntry address =>
        obtain ⟨a, b, c, d, high, low, octets, rfl⟩ := address.exists_toMac
        rw [body, octets]
        rfl
      | writeBroadcastDistributionTable entries | readBroadcastDistributionTableAck entries =>
        unfold decodeBody
        dsimp only [function, body]
        rw [orInvalid_eq_ok_iff.mpr (tableCodec_broadcast.decode_eq_some_iff.mpr rfl)]
        rfl
      | readForeignDeviceTableAck entries =>
        unfold decodeBody
        dsimp only [function, body]
        rw [orInvalid_eq_ok_iff.mpr (tableCodec_foreign.decode_eq_some_iff.mpr rfl)]
        rfl
      | _ => rfl
    · rfl
    · rfl

/-! ## Frames -/

/-- The number of octets of the frame: its head, and the fields of its function. -/
def frameLength : BvlcMessage → Nat
  | readBroadcastDistributionTable | readForeignDeviceTable => 4
  | result _ | registerForeignDevice _ => 6
  | deleteForeignDeviceTableEntry _ => 10
  | forwardedNpdu _ npdu => 10 + npdu.length
  | writeBroadcastDistributionTable entries | readBroadcastDistributionTableAck entries =>
    4 + 10 * entries.length
  | readForeignDeviceTableAck entries => 4 + 10 * entries.length
  | distributeBroadcastToNetwork npdu | originalUnicastNpdu npdu | originalBroadcastNpdu npdu =>
    4 + npdu.length
  | secureBvll data => 4 + data.length

theorem length_body (message : BvlcMessage) : 4 + message.body.length = message.frameLength := by
  cases message with
  | forwardedNpdu origin npdu =>
    rw [body, List.length_append, SocketAddress.length_toMac, ← Nat.add_assoc]
    rfl
  | writeBroadcastDistributionTable entries | readBroadcastDistributionTableAck entries =>
    exact congrArg (4 + ·) (tableCodec_broadcast.length_flatMap entries)
  | readForeignDeviceTableAck entries =>
    exact congrArg (4 + ·) (tableCodec_foreign.length_flatMap entries)
  | _ => rfl

/-- A frame is the head with the length of the frame, and the fields. -/
theorem encode_eq_ok_iff {message : BvlcMessage} {octets : Octets} :
    message.encode = .ok octets ↔ ∃ length : UInt16,
      octets = BvlcHeader.encode ⟨message.function, length⟩ ++ message.body ∧
        length.toNat = octets.length := by
  have size (length : UInt16) :
      (BvlcHeader.encode ⟨message.function, length⟩ ++ message.body).length =
        4 + message.body.length := by
    rw [List.length_append, BvlcHeader.length_encode]
  unfold encode
  dsimp only
  split
  · next fits =>
    have told : (UInt16.ofNat (4 + message.body.length)).toNat = 4 + message.body.length := by
      rw [UInt16.toNat_ofNat']
      exact Nat.mod_eq_of_lt fits
    constructor
    · intro writes
      cases writes
      exact ⟨_, rfl, told.trans (size _).symm⟩
    · rintro ⟨length, rfl, same⟩
      rw [size] at same
      rw [← same, UInt16.ofNat_toNat]
  · next long =>
    refine ⟨nofun, fun ⟨length, whole, same⟩ => ?_⟩
    rw [whole, size] at same
    exact absurd (same ▸ length.toNat_lt) long

/-- A frame is read if its head tells its length and a message is read from what follows it. -/
theorem decode_eq_ok_iff {data : Octets} {message : BvlcMessage} :
    decode data = .ok message ↔ ∃ (length : UInt16) (inside : Octets),
      data = BvlcHeader.encode ⟨message.function, length⟩ ++ inside ∧
        length.toNat = data.length ∧ (message.body = inside ∨ message.AsksForTable) := by
  have behind (header : BvlcHeader) (inside : Octets) :
      (header.encode ++ inside).drop 4 = inside := List.drop_left' header.length_encode
  constructor
  · intro reads
    obtain ⟨header, head, reads⟩ := exists_of_bind_eq_ok reads
    obtain ⟨inside, rfl⟩ := BvlcHeader.decode_eq_ok_iff.mp head
    split at reads
    · next told =>
      rw [behind] at reads
      obtain ⟨function, fields⟩ := decodeBody_eq_ok_iff.mp reads
      exact ⟨header.length, inside, by rw [function], told, fields⟩
    · cases reads
  · rintro ⟨length, inside, rfl, told, fields⟩
    rw [decode, BvlcHeader.decode_eq_ok_iff.mpr ⟨inside, rfl⟩]
    show (if _ then _ else _) = _
    rw [if_pos told, behind]
    exact decodeBody_eq_ok_iff.mpr ⟨rfl, fields⟩

theorem encode_of_short {message : BvlcMessage} (short : message.frameLength ≤ 65535) :
    ∃ octets, message.encode = .ok octets ∧ octets.length = message.frameLength := by
  refine ⟨_, if_pos (Nat.lt_succ_of_le (message.length_body ▸ short)), ?_⟩
  rw [List.length_append, BvlcHeader.length_encode, length_body]

/-- A message whose frame is longer than the length field can tell is refused. Every other one is
written as a frame whose length field tells its length, and is read back from it. -/
theorem read_back_unless_too_long (message : BvlcMessage) :
    65535 < message.frameLength ∧
        message.encode = .error (.frameTooLarge message.frameLength) ∨
      message.frameLength ≤ 65535 ∧ ∃ octets, message.encode = .ok octets ∧
        octets.length = message.frameLength ∧
        (∃ length : UInt16, BvlcHeader.decode octets = .ok ⟨message.function, length⟩ ∧
          length.toNat = octets.length) ∧
        decode octets = .ok message := by
  by_cases long : 65535 < message.frameLength
  · refine .inl ⟨long, ?_⟩
    unfold encode
    dsimp only
    rw [length_body, if_neg (Nat.not_lt_of_le long)]
  · have short := Nat.le_of_not_lt long
    obtain ⟨octets, writes, size⟩ := encode_of_short short
    obtain ⟨length, whole, told⟩ := encode_eq_ok_iff.mp writes
    exact .inr ⟨short, octets, writes, size,
      ⟨length, BvlcHeader.decode_eq_ok_iff.mpr ⟨message.body, whole⟩, told⟩,
      decode_eq_ok_iff.mpr ⟨length, message.body, whole, told, .inl rfl⟩⟩

theorem body_of_asksForTable {message : BvlcMessage} (asks : message.AsksForTable) :
    message.body = [] := by
  obtain rfl | rfl := asks <;> rfl

/-- What is accepted was written for the message that is read, or else it is a request for a table
with stray octets behind its head, which the length field counts. -/
theorem accepted_iff (data : Octets) (message : BvlcMessage) :
    decode data = .ok message ↔
      message.encode = .ok data ∨
      message.AsksForTable ∧ ∃ (length : UInt16) (stray : Octets), stray ≠ [] ∧
        data = BvlcHeader.encode ⟨message.function, length⟩ ++ stray ∧
        length.toNat = data.length := by
  rw [decode_eq_ok_iff, encode_eq_ok_iff]
  constructor
  · rintro ⟨length, inside, whole, told, rfl | asks⟩
    · exact .inl ⟨length, whole, told⟩
    · by_cases nothing : inside = []
      · refine .inl ⟨length, ?_, told⟩
        rw [whole, nothing, body_of_asksForTable asks]
      · exact .inr ⟨asks, length, inside, nothing, whole, told⟩
  · rintro (⟨length, whole, told⟩ | ⟨asks, length, stray, -, whole, told⟩)
    · exact ⟨length, message.body, whole, told, .inl rfl⟩
    · exact ⟨length, stray, whole, told, .inr asks⟩

/-- Stray octets behind a request for a table are passed over, and do not come back. -/
theorem stray_octets_accepted :
    decode [0x81, 2, 0, 5, 10] = .ok readBroadcastDistributionTable ∧
      readBroadcastDistributionTable.encode = .ok [0x81, 2, 0, 4] :=
  ⟨rfl, rfl⟩

end BvlcMessage

end BACnet
