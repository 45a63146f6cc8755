import BACnet.Proofs.Apdu.Truncation
import BACnet.Proofs.Network.RoundTrip
import BACnet.Text.Chart

/-!
# Messages that are cut short

The fields in the head of a unit are read one behind the other, and each leaves what stands behind
it (`LeavesRest`). If some octets of the head could be missing, then those that are there would be
read as a whole head, and the others, when they come, as a part of the application message behind
it: but of this there is nothing in the head. So a unit is refused as malformed without its whole
head, and it is read with what is left of its application message otherwise
(`Npdu.decode_take`). Application messages are cut in the same way (`truncation`).
-/

namespace BACnet

/-! ## Fields that leave the rest -/

/-- What is read in front leaves all octets behind it, and does not look at them. -/
def LeavesRest {ε α : Type} (read : Octets → Except ε (α × Octets)) : Prop :=
  ∀ {data value rest}, read data = .ok (value, rest) →
    ∀ more, read (data ++ more) = .ok (value, rest ++ more)

namespace Npdu

theorem leavesRest_decodeAddress (network length mac : NpduField) :
    LeavesRest (decodeAddress network length mac) := by
  intro data address rest reads more
  unfold decodeAddress at reads
  split at reads
  · split at reads
    · cases reads
    · next count behind =>
      split at reads
      · next octets takes =>
        cases reads
        obtain ⟨size, whole⟩ := Octets.append_of_take? takes
        rw [List.cons_append, List.cons_append, List.cons_append, decodeAddress, whole,
          List.append_assoc, ← size, Octets.take?_append]
        simp only [List.drop_left]
      · cases reads
  · cases reads

theorem leavesRest_decodeDestination (control : UInt8) :
    LeavesRest (decodeDestination control) := by
  intro data destination rest reads more
  unfold decodeDestination at reads ⊢
  split at reads
  · next announced =>
    obtain ⟨⟨address, behind⟩, found, reads⟩ := exists_of_bind_eq_ok reads
    rw [if_pos announced, leavesRest_decodeAddress _ _ _ found more]
    dsimp only at reads
    split at reads
    · cases reads
    · next far =>
      cases reads
      exact if_neg far
  · next none =>
    cases reads
    exact if_neg none

theorem leavesRest_decodeSource (control : UInt8) : LeavesRest (decodeSource control) := by
  intro data source rest reads more
  unfold decodeSource at reads ⊢
  split at reads
  · next announced =>
    obtain ⟨⟨address, behind⟩, found, reads⟩ := exists_of_bind_eq_ok reads
    rw [if_pos announced, leavesRest_decodeAddress _ _ _ found more]
    dsimp only at reads
    split at reads
    · cases reads
    · next far =>
      split at reads
      · cases reads
      · next single =>
        cases reads
        exact (if_neg far).trans (if_neg single)
  · next none =>
    cases reads
    exact if_neg none

theorem leavesRest_decodeHopCount (destination : Option Address) :
    LeavesRest (decodeHopCount destination) := by
  intro data hopCount rest reads more
  cases destination with
  | none =>
    cases reads
    rfl
  | some address =>
    cases data with
    | nil => cases reads
    | cons first others =>
      cases reads
      rfl

/-- Octets behind a unit that carries an application message belong to that message. -/
theorem decodeRest_append {control : UInt8} (plain : Octets.bit control 7 = false)
    {data : Octets} {npdu : Npdu} (reads : decodeRest control data = .ok npdu) :
    ∃ rest, ∀ more, decodeRest control (data ++ more) =
      .ok { npdu with body := .apdu (rest ++ more) } := by
  obtain ⟨⟨destination, afterDestination⟩, toward, reads⟩ := exists_of_bind_eq_ok reads
  obtain ⟨⟨source, afterSource⟩, origin, reads⟩ := exists_of_bind_eq_ok reads
  obtain ⟨⟨hopCount, afterHopCount⟩, hops, reads⟩ := exists_of_bind_eq_ok reads
  obtain ⟨body, carried, reads⟩ := exists_of_bind_eq_ok reads
  cases reads
  refine ⟨afterHopCount, fun more => ?_⟩
  have behind : decodeBody control (afterHopCount ++ more) = .ok (.apdu (afterHopCount ++ more)) :=
    if_neg (Bool.eq_false_iff.mp plain)
  unfold decodeRest
  simp only [leavesRest_decodeDestination control toward more,
    leavesRest_decodeSource control origin more, leavesRest_decodeHopCount destination hops more,
    behind, bind, Except.bind]

/-! ## Refusals -/

/-- What cannot be read is malformed. -/
def Malformed {α : Type} (result : Except NetworkError α) : Prop :=
  FailsOnly (fun error => error.kind = .malformedPdu) result

theorem malformed_decodeAddress (network length mac : NpduField) (data : Octets) :
    Malformed (decodeAddress network length mac data) := by
  unfold decodeAddress
  split
  · split
    · exact .error rfl
    · split
      · exact .ok _
      · exact .error rfl
  · exact .error rfl

theorem malformed_decodeDestination (control : UInt8) (data : Octets) :
    Malformed (decodeDestination control data) := by
  refine .ite (.bind (malformed_decodeAddress _ _ _ data) fun _ _ => ?_) (.ok _)
  exact .ite (.error rfl) (.ok _)

theorem malformed_decodeSource (control : UInt8) (data : Octets) :
    Malformed (decodeSource control data) := by
  refine .ite (.bind (malformed_decodeAddress _ _ _ data) fun _ _ => ?_) (.ok _)
  exact .ite (.error rfl) (.ite (.error rfl) (.ok _))

theorem malformed_decodeHopCount (destination : Option Address) (data : Octets) :
    Malformed (decodeHopCount destination data) := by
  unfold decodeHopCount
  split
  · exact .ok _
  · exact .ok _
  · exact .error rfl

theorem malformed_decodeMessage (data : Octets) : Malformed (decodeMessage data) := by
  have payload (messageType : UInt8) (vendorId : Option UInt16) (rest : Octets) :
      Malformed (NetworkMessage.decode messageType vendorId rest) := by
    unfold NetworkMessage.decode
    split
    · split
      · exact .ok _
      · exact .error rfl
    · split
      · exact .ok _
      · split
        · exact .ok _
        · exact .error rfl
  unfold decodeMessage
  split
  · exact .error rfl
  · split
    · split
      · exact payload _ _ _
      · exact .error rfl
    · exact payload _ _ _

/-- A unit that cannot be read is malformed. -/
theorem malformed_decode (data : Octets) : Malformed (decode data) := by
  unfold decode
  split
  · exact .error rfl
  · split
    · split
      · exact .error rfl
      · refine .bind (malformed_decodeDestination _ _) fun _ _ =>
          .bind (malformed_decodeSource _ _) fun _ _ =>
            .bind (malformed_decodeHopCount _ _) fun _ _ => .bind ?_ fun _ _ => .ok _
        exact .ite (.map (malformed_decodeMessage _) _) (.ok _)
    · exact .error rfl

/-! ## Heads and application messages -/

/-- The number of octets of an address. -/
def addressLength (address : Address) : Nat := 3 + address.mac.length

/-- The length of the head of the unit: the version and the control octet, the destination with its
hop count, and the source. -/
def headLength (npdu : Npdu) : Nat :=
  2 + npdu.destination.elim 0 (fun address => addressLength address + 1) +
    npdu.source.elim 0 addressLength

theorem length_of_encodeAddress {role : AddressRole} {address : Address} {octets : Octets}
    (encodes : encodeAddress role address = .ok octets) :
    octets.length = addressLength address := by
  unfold encodeAddress at encodes
  split at encodes
  · cases encodes
  · split at encodes
    · cases encodes
    · cases encodes
      rw [List.length_append, List.length_cons, Octets.ofWord16, Octets.length_bigEndian,
        addressLength]
      omega

theorem length_of_encodeSource {source : Option Address} {octets : Octets}
    (encodes : encodeSource source = .ok octets) :
    octets.length = source.elim 0 addressLength := by
  cases source with
  | none =>
    cases encodes
    rfl
  | some address =>
    unfold encodeSource at encodes
    dsimp only at encodes
    split at encodes
    · cases encodes
    · exact length_of_encodeAddress encodes

/-- The head of a unit stands in front of every application message that it could carry. -/
theorem exists_head {npdu : Npdu} {data octets : Octets} (carries : npdu.body = .apdu data)
    (encodes : npdu.encode = .ok octets) :
    ∃ head, (protocolVersion :: npdu.control :: head).length = npdu.headLength ∧
      octets = protocolVersion :: npdu.control :: head ++ data ∧
      ∀ other, { npdu with body := .apdu other }.encode =
        .ok (protocolVersion :: npdu.control :: head ++ other) := by
  obtain ⟨destination, source, wrote, named, rfl⟩ := encode_eq_ok_iff.mp encodes
  refine ⟨destination ++ (source ++ if npdu.destination.isSome then [npdu.hopCount] else []),
    ?_, ?_, fun other => ?_⟩
  · rw [headLength, ← length_of_encodeSource named]
    cases known : npdu.destination with
    | none =>
      rw [known] at wrote
      cases wrote
      simp
      omega
    | some address =>
      rw [known] at wrote
      simp [length_of_encodeAddress wrote]
      omega
  · rw [carries]
    simp [encodeBody]
  · have same : Npdu.control { npdu with body := .apdu other } = npdu.control := by
      unfold control
      rw [carries]
      rfl
    refine encode_eq_ok_iff.mpr ⟨destination, source, wrote, named, ?_⟩
    rw [same]
    simp [encodeBody]

/-- Without its whole head a unit is refused as malformed. Otherwise it is read with what is left of
its application message. -/
theorem decode_take {npdu : Npdu} {data octets : Octets} (carries : npdu.body = .apdu data)
    (wellFormed : npdu.WellFormed) (encodes : npdu.encode = .ok octets) (count : Nat) :
    (count < npdu.headLength →
      ∃ error, decode (octets.take count) = .error error ∧ error.kind = .malformedPdu) ∧
    (npdu.headLength ≤ count → decode (octets.take count) =
      .ok { npdu with body := .apdu (data.take (count - npdu.headLength)) }) := by
  obtain ⟨head, size, rfl, heads⟩ := exists_head carries encodes
  have reads (other : Octets) : decode (protocolVersion :: npdu.control :: head ++ other) =
      .ok { npdu with body := .apdu other } :=
    have kept : WellFormed { npdu with body := .apdu other } := ⟨wellFormed.hopCount, nofun⟩
    decode_of_encode kept (heads other)
  rw [← size]
  constructor
  · intro short
    rw [List.take_append_of_le_length (Nat.le_of_lt short)]
    cases result : decode ((protocolVersion :: npdu.control :: head).take count) with
    | error error => exact ⟨error, rfl, malformed_decode _ error result⟩
    | ok found =>
      match count with
      | 0 | 1 => cases result
      | count + 2 =>
        have plain : Octets.bit npdu.control 7 = false := by
          rw [npdu.control_bits.1, carries]
          rfl
        obtain ⟨rest, extended⟩ := decodeRest_append plain result
        -- what is missing of the head would be read as a part of the empty message behind it
        have whole := extended (head.drop count)
        rw [List.take_append_drop] at whole
        have empty := reads []
        rw [List.append_nil] at empty
        have body := congrArg Npdu.body (Except.ok.inj (whole.symm.trans empty))
        have missing := (List.append_eq_nil_iff.mp (NpduBody.apdu.inj body)).2
        have few := List.drop_eq_nil_iff.mp missing
        simp only [List.length_cons] at short
        omega
  · intro enough
    rw [List.take_append, List.take_of_length_le enough]
    exact reads _

end Npdu

/-! ## Units and application messages -/

section

variable [TextCodec]

/-- A message that is cut short is never taken for another one: without its whole head it is refused
as malformed, and otherwise it is read as it was, with the octets of its parameters, or of the
application message in a unit, that are left. -/
theorem truncation :
    (∀ (apdu : Apdu) (count : Nat), count < apdu.encode.length →
      (count < apdu.headLength → ∃ error,
        Apdu.decode (apdu.encode.take count) = .error error ∧ error.kind = .malformedPdu) ∧
      (apdu.headLength ≤ count → Apdu.decode (apdu.encode.take count) =
        .ok (apdu.cutParameters (count - apdu.headLength)))) ∧
    ∀ (npdu : Npdu) (data : Octets), npdu.body = .apdu data → npdu.WellFormed →
      npdu.Addressable →
      ∃ octets, npdu.encode = .ok octets ∧ ∀ count < octets.length,
        (count < npdu.headLength → ∃ error,
          Npdu.decode (octets.take count) = .error error ∧ error.kind = .malformedPdu) ∧
        (npdu.headLength ≤ count → Npdu.decode (octets.take count) =
          .ok { npdu with body := .apdu (data.take (count - npdu.headLength)) }) := by
  refine ⟨fun apdu count _ => ⟨Apdu.decode_take_of_lt, Apdu.decode_take_of_le⟩,
    fun npdu data carries wellFormed addressable => ?_⟩
  obtain ⟨octets, encodes⟩ := (Npdu.exists_encode_iff npdu).mpr addressable
  exact ⟨octets, encodes, fun count _ => Npdu.decode_take carries wellFormed encodes count⟩

end

open scoped Chart

/-- A segment of a request in a unit that comes from another network on its way to a third one. -/
theorem truncation_of_segmented_request :
    let request : Apdu := .confirmedRequest ⟨true, .four, .up480, 7, some ⟨0, 4, true⟩, 15, [1, 2]⟩
    let npdu : Npdu := ⟨.normal, true, some ⟨5, [9]⟩, some ⟨3, [1, 2]⟩, 254, .apdu request.encode⟩
    (∃ error, Apdu.decode (request.encode.take 5) = .error error ∧ error.kind = .malformedPdu) ∧
      Apdu.decode (request.encode.take 7) = .ok (request.cutParameters 1) ∧
      ∃ octets, npdu.encode = .ok octets ∧
        (∃ error, Npdu.decode (octets.take 11) = .error error ∧ error.kind = .malformedPdu) ∧
        Npdu.decode (octets.take 18) =
          .ok { npdu with body := .apdu (request.encode.take 6) } := by
  intro request npdu
  have addressable : npdu.Addressable :=
    ⟨by rintro _ ⟨⟩; exact ⟨by decide, by decide⟩, by rintro _ ⟨⟩; decide⟩
  obtain ⟨octets, encodes, cuts⟩ :=
    truncation.2 npdu request.encode rfl ⟨by rintro ⟨⟩, by rintro _ ⟨⟩⟩ addressable
  refine ⟨(truncation.1 request 5 (by decide)).1 (by decide),
    (truncation.1 request 7 (by decide)).2 (by decide), octets, encodes, ?_⟩
  cases encodes
  exact ⟨(cuts 11 (by decide)).1 (by decide), (cuts 18 (by decide)).2 (by decide)⟩

end BACnet
