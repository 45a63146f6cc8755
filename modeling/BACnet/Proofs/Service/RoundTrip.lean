import BACnet.Proofs.Data.Reading
import BACnet.Service.CommunicationControl
import BACnet.Service.IAm
import BACnet.Service.WhoIs
import BACnet.Text.Chart

/-!
# Service parameters on the wire

What is written for a service is read back (`service_parameters_survive`). The fields of an I-Am
come in a fixed order, and nothing may follow them (`IAm.decode_encode_append`). Those of a
DeviceCommunicationControl request carry context tags, by which a missing one is told from the next
(`CommunicationControl.readMinutes_append`). A Who-Is loses an end of a range that stands alone, but
not its meaning (`WhoIs.exists_decode`).
-/

namespace BACnet

/-- What is read up to the end of the octets is read if nothing is left there. -/
theorem Read.run_eq_of_finish {α : Type} {action : Read α} {data rest : Octets} {value : α}
    (reads : ∃ position maxDepth, action (Reader.ofOctets data) =
      (do finish; pure value : Read α) ⟨rest, position, [], maxDepth⟩) :
    action.run data =
      if rest = [] then .ok value else .error (.invalidFormat (.trailing rest.length)) := by
  obtain ⟨position, maxDepth, reads⟩ := reads
  rw [run, reads]
  cases rest with
  | nil => rfl
  | cons first others => rfl

/-! ## I-Am -/

namespace IAm

theorem ofCode_code (segmentation : Segmentation) :
    Segmentation.ofCode segmentation.code = .ok segmentation := by
  cases segmentation <;> rfl

variable [TextCodec]

theorem takes_readDevice {device : ObjectIdentifier} (fits : device.Fits)
    (isDevice : device.objectType = ObjectIdentifier.deviceType) :
    readDevice.Takes (encodeObjectIdentifier device) device := by
  refine (Read.takes_objectIdentifier (decode_encodeObjectIdentifier fits)).then_nothing ?_
  rw [if_pos isDevice]
  exact .pure device

theorem takes_readNarrow {bound : Nat} {value : UInt64} (narrow : value.toNat < bound)
    (fault : ParameterFault) : (readNarrow bound fault).Takes (encodeUnsigned value) value := by
  refine (Read.takes_unsigned (decode_encodeUnsigned value)).then_nothing ?_
  rw [if_pos narrow]
  exact .pure value

/-- What a device tells is read back, and octets behind it are refused. -/
theorem decode_encode_append {request : IAm}
    (isDevice : request.device.objectType = ObjectIdentifier.deviceType)
    (numbered : request.device.number.toNat ≤ ObjectIdentifier.maxNumber) (rest : Octets) :
    decode (request.encode ++ rest) =
      if rest = [] then .ok request else .error (.invalidFormat (.trailing rest.length)) := by
  obtain ⟨device, maxApduLength, segmentation, vendor⟩ := request
  have fits : device.Fits := ⟨isDevice ▸ by decide, numbered⟩
  have word : maxApduLength.toUInt64.toNat < 0x100000000 := by
    rw [UInt32.toNat_toUInt64]
    exact maxApduLength.toNat_lt
  have short : vendor.toUInt64.toNat < 0x10000 := by
    rw [UInt16.toNat_toUInt64]
    exact vendor.toNat_lt
  apply Read.run_eq_of_finish
  unfold encode read Reader.ofOctets Reader.new
  simp only [List.append_assoc]
  rw [(takes_readDevice fits isDevice).bind, (takes_readNarrow word _).bind,
    (Read.takes_encodeEnumerated _).bind,
    Read.lift_bind (ofCode_code segmentation), (takes_readNarrow short _).bind,
    UInt32.toUInt32_toUInt64, UInt16.toUInt16_toUInt64]
  exact ⟨_, _, rfl⟩

end IAm

/-! ## DeviceCommunicationControl -/

namespace CommunicationControl

theorem ofCode_code (state : Communication) : Communication.ofCode state.code = .ok state := by
  cases state <;> rfl

variable {octets : Octets}

/-- Minutes that are left out are not read from the element that comes in their place. -/
theorem readMinutes_append {minutes : Option UInt16}
    (encodes : encodeOptional (fun value : UInt16 => encodeContextUnsigned 0 value.toUInt64)
      minutes = .ok octets) {number : UInt8} (another : number ≠ 0) {inside next : Octets}
    (follows : encodeContext number inside = .ok next) (rest : Octets) (position : Nat)
    (opened : List UInt8) (maxDepth : Nat) :
    readMinutes ⟨octets ++ (next ++ rest), position, opened, maxDepth⟩ =
      .ok minutes ⟨next ++ rest, position + octets.length, opened, maxDepth⟩ := by
  cases minutes with
  | none =>
    cases encodes
    have other := Reader.nextIsContext_append follows 0 rest position opened maxDepth
    rw [beq_false_of_ne another] at other
    exact Read.bind_eq (Read.optional_of_other other) _
  | some value =>
    have takes := Read.takes_optional encodes (Read.takes_contextUnsigned encodes)
    have narrow : value.toUInt64.toNat < 0x10000 := by
      rw [UInt16.toNat_toUInt64]
      exact value.toNat_lt
    refine takes.then_nothing ?_ _ _ _ _
    dsimp only
    rw [if_pos narrow, UInt16.toUInt16_toUInt64]
    exact .pure _

variable [TextCodec]

theorem readPassword_eq {password : Option CharacterString}
    (held : ∀ string, password = some string → string.Representable)
    (encodes : encodeOptional (encodeContextCharacterString 2) password = .ok octets)
    (position : Nat) (opened : List UInt8) (maxDepth : Nat) :
    readPassword ⟨octets, position, opened, maxDepth⟩ =
      .ok password ⟨[], position + octets.length, opened, maxDepth⟩ := by
  cases password with
  | none =>
    cases encodes
    exact Read.optional_of_other rfl
  | some string =>
    obtain ⟨content, written, tagged⟩ := exists_of_bind_eq_ok encodes
    have takes := Read.takes_optional tagged
      (Read.takes_contextCharacterString (held string rfl) encodes)
    have reads := takes [] position opened maxDepth
    rwa [List.append_nil] at reads

/-- A request that is written is read back. -/
theorem decode_of_encode {request : CommunicationControl}
    (held : ∀ password, request.password = some password → password.Representable)
    (encodes : request.encode = .ok octets) : decode octets = .ok request := by
  obtain ⟨minutes, state, password⟩ := request
  obtain ⟨first, minutesWritten, encodes⟩ := exists_of_bind_eq_ok encodes
  obtain ⟨second, stateWritten, encodes⟩ := exists_of_bind_eq_ok encodes
  obtain ⟨third, passwordWritten, encodes⟩ := exists_of_bind_eq_ok encodes
  cases encodes
  refine (Read.run_eq_of_finish ?_).trans (if_pos rfl)
  unfold read Reader.ofOctets Reader.new
  rw [List.append_assoc,
    Read.bind_eq (readMinutes_append minutesWritten (by decide) stateWritten third 0 [] _),
    (Read.takes_contextEnumerated stateWritten).bind, Read.lift_bind (ofCode_code state),
    Read.bind_eq (readPassword_eq held passwordWritten _ [] _)]
  exact ⟨_, _, rfl⟩

/-- A request is written unless its password is so long that no tag can tell its length. -/
theorem exists_encode_or {request : CommunicationControl}
    (held : ∀ password, request.password = some password → password.Representable) :
    (∃ octets, request.encode = .ok octets) ∨
      ∃ password content, request.password = some password ∧ password.content = .ok content ∧
        0x100000000 ≤ content.length ∧
        request.encode = .error (.valueOutOfRange (.contentLength content.length)) := by
  obtain ⟨minutes, state, password⟩ := request
  obtain ⟨first, minutesWritten⟩ : ∃ octets, encodeOptional
      (fun value : UInt16 => encodeContextUnsigned 0 value.toUInt64) minutes = .ok octets := by
    cases minutes with
    | none => exact ⟨_, rfl⟩
    | some value => exact exists_encodeContextUnsigned (by decide) value.toUInt64
  have four := length_enumeratedContent_le state.code
  obtain ⟨second, stateWritten⟩ : ∃ octets, encodeContextEnumerated 1 state.code = .ok octets :=
    exists_encodeContext (by decide) (by omega)
  have encodes : encode ⟨minutes, state, password⟩ =
      encodeOptional (encodeContextCharacterString 2) password >>= fun third =>
        .ok (first ++ second ++ third) := by
    unfold encode
    rw [minutesWritten, stateWritten]
    rfl
  cases password with
  | none => exact .inl ⟨_, encodes⟩
  | some password =>
    obtain ⟨content, written, -⟩ := (held password rfl).exists_content
    have tagged : encodeOptional (encodeContextCharacterString 2) (some password) =
        encodeContext 2 content := by
      show (password.content >>= _) = _
      rw [written]
      rfl
    rw [tagged] at encodes
    by_cases fits : content.length < 0x100000000
    · obtain ⟨third, passwordWritten⟩ :=
        exists_encodeContext (by decide : (2 : UInt8) ≠ 255) fits
      rw [passwordWritten] at encodes
      exact .inl ⟨_, encodes⟩
    · have long := Nat.le_of_not_lt fits
      rw [encodeContext_of_long (by decide) long] at encodes
      exact .inr ⟨password, content, rfl, written, long, encodes⟩

end CommunicationControl

/-! ## Who-Is -/

namespace WhoIs

theorem takes_readInstance {number : UInt8} {value : UInt32} {octets : Octets}
    (numbered : value.toNat ≤ ObjectIdentifier.maxNumber)
    (encodes : encodeContextUnsigned number value.toUInt64 = .ok octets) :
    (readInstance number).Takes octets value := by
  refine (Read.takes_contextUnsigned encodes).then_nothing ?_
  rw [UInt32.toNat_toUInt64, if_pos numbered, UInt32.toUInt32_toUInt64]
  exact .pure value

theorem exists_encode_range (low high : UInt32) :
    ∃ first second, encodeContextUnsigned 0 low.toUInt64 = .ok first ∧
      encodeContextUnsigned 1 high.toUInt64 = .ok second ∧
      encode ⟨some low, some high⟩ = .ok (first ++ second) := by
  obtain ⟨first, lowWritten⟩ :=
    exists_encodeContextUnsigned (by decide : (0 : UInt8) ≠ 255) low.toUInt64
  obtain ⟨second, highWritten⟩ :=
    exists_encodeContextUnsigned (by decide : (1 : UInt8) ≠ 255) high.toUInt64
  refine ⟨first, second, lowWritten, highWritten, ?_⟩
  unfold encode
  dsimp only
  rw [lowWritten, highWritten]
  rfl

/-- Both ends of a range are read back. -/
theorem decode_range {low high : UInt32} (lowFits : low.toNat ≤ ObjectIdentifier.maxNumber)
    (highFits : high.toNat ≤ ObjectIdentifier.maxNumber) {first second : Octets}
    (lowWritten : encodeContextUnsigned 0 low.toUInt64 = .ok first)
    (highWritten : encodeContextUnsigned 1 high.toUInt64 = .ok second) :
    decode (first ++ second) = .ok (range low high) := by
  have some := Reader.isEmpty_of_encodeContext lowWritten second 0 [] Reader.defaultMaxDepth
  have more := Reader.isEmpty_of_encodeContext highWritten [] (0 + first.length) []
    Reader.defaultMaxDepth
  have last := takes_readInstance highFits highWritten [] (0 + first.length) []
    Reader.defaultMaxDepth
  rw [List.append_nil] at more last
  refine (Read.run_eq_of_finish ?_).trans (if_pos rfl)
  unfold read Reader.ofOctets Reader.new
  show ∃ position maxDepth, (if Reader.isEmpty ⟨first ++ second, 0, [], _⟩ then _ else _ :
    Read WhoIs) _ = _
  rw [some, if_neg Bool.false_ne_true, (takes_readInstance lowFits lowWritten).bind]
  show ∃ position maxDepth, (if Reader.isEmpty ⟨second, 0 + first.length, [], _⟩ then _ else _ :
    Read WhoIs) _ = _
  rw [more, if_neg Bool.false_ne_true, Read.bind_eq last]
  exact ⟨_, _, rfl⟩

/-- A question within the limits of device numbers is written and read back as one that asks for the
same devices; a range with one end only asks for all. -/
theorem exists_decode {request : WhoIs}
    (lowFits : ∀ low, request.low = some low → low.toNat ≤ ObjectIdentifier.maxNumber)
    (highFits : ∀ high, request.high = some high → high.toNat ≤ ObjectIdentifier.maxNumber) :
    ∃ octets again, request.encode = .ok octets ∧ decode octets = .ok again ∧
      ∀ device, again.asksFor device = request.asksFor device := by
  obtain ⟨low, high⟩ := request
  cases low with
  | none => exact ⟨[], all, rfl, rfl, fun _ => rfl⟩
  | some low =>
    cases high with
    | none => exact ⟨[], all, rfl, rfl, fun _ => rfl⟩
    | some high =>
      obtain ⟨first, second, lowWritten, highWritten, encodes⟩ := exists_encode_range low high
      have reads := decode_range (lowFits low rfl) (highFits high rfl) lowWritten highWritten
      exact ⟨_, _, encodes, reads, fun _ => rfl⟩

end WhoIs

/-! ## The services -/

section

variable [TextCodec]

/-- Service parameters survive the wire. An I-Am of a device is read back, and refused if anything
follows it. A DeviceCommunicationControl request is read back, with the fields that it has, if its
password can be written: its character set holds the text, and a tag can tell its length. A Who-Is
is read back as a question for the same devices. -/
theorem service_parameters_survive :
    (∀ request : IAm, request.device.objectType = ObjectIdentifier.deviceType →
      request.device.number.toNat ≤ ObjectIdentifier.maxNumber →
      IAm.decode request.encode = .ok request ∧
        ∀ rest, rest ≠ [] → ∃ error, IAm.decode (request.encode ++ rest) = .error error) ∧
    (∀ request : CommunicationControl,
      (∀ password, request.password = some password → password.Representable) →
      (∃ octets, request.encode = .ok octets ∧
        CommunicationControl.decode octets = .ok request) ∨
      ∃ password content, request.password = some password ∧ password.content = .ok content ∧
        0x100000000 ≤ content.length ∧
        request.encode = .error (.valueOutOfRange (.contentLength content.length))) ∧
    ∀ request : WhoIs,
      (∀ low, request.low = some low → low.toNat ≤ ObjectIdentifier.maxNumber) →
      (∀ high, request.high = some high → high.toNat ≤ ObjectIdentifier.maxNumber) →
      ∃ octets again, request.encode = .ok octets ∧ WhoIs.decode octets = .ok again ∧
        ∀ device, again.asksFor device = request.asksFor device := by
  refine ⟨fun request isDevice numbered => ⟨?_, fun rest some => ?_⟩, fun request held => ?_,
    fun request => WhoIs.exists_decode⟩
  · have alone := IAm.decode_encode_append isDevice numbered []
    rwa [List.append_nil, if_pos rfl] at alone
  · exact ⟨_, (IAm.decode_encode_append isDevice numbered rest).trans (if_neg some)⟩
  · obtain ⟨octets, encodes⟩ | long := CommunicationControl.exists_encode_or held
    · exact .inl ⟨octets, encodes, CommunicationControl.decode_of_encode held encodes⟩
    · exact .inr long

end

open scoped Chart

/-- The last device with the largest limits, a request without minutes whose password travels in a
set of two octets, and a question that has an upper end only. -/
theorem service_parameters_survive_at_limits :
    let iAm : IAm := ⟨⟨8, 4194303⟩, 0xFFFFFFFF, .noSegmentation, 65535⟩
    let control : CommunicationControl := ⟨none, .disable, some ⟨.ucs2, "°C"⟩⟩
    let whoIs : WhoIs := ⟨none, some 4194303⟩
    IAm.decode iAm.encode = .ok iAm ∧
      (∃ error, IAm.decode (iAm.encode ++ [0]) = .error error) ∧
      (∃ octets, control.encode = .ok octets ∧
        CommunicationControl.decode octets = .ok control) ∧
      ∃ octets again, whoIs.encode = .ok octets ∧ WhoIs.decode octets = .ok again ∧
        ∀ device, again.asksFor device = whoIs.asksFor device := by
  intro iAm control whoIs
  obtain ⟨iAms, controls, questions⟩ := service_parameters_survive
  obtain ⟨alone, followed⟩ := iAms iAm rfl (by decide)
  have held : ∀ password, control.password = some password → password.Representable := by
    rintro _ ⟨⟩
    show ∀ c ∈ "°C".toList, c.toNat ≤ 0xFFFF
    simp
  refine ⟨alone, followed [0] (List.cons_ne_nil _ _), ?_,
    questions whoIs nofun (by rintro _ ⟨⟩; decide)⟩
  obtain written | ⟨_, content, ⟨⟩, known, long, -⟩ := controls control held
  · exact written
  · cases known
    exact absurd long (by decide)

end BACnet
