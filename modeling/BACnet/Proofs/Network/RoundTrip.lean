import BACnet.Network.Npdu
import BACnet.Proofs.Octets.Reading

/-!
# Network messages on the wire

A unit can be sent if its addresses can (`Npdu.Addressable`), and it is read back as it was if it is
well formed (`Npdu.WellFormed`): nothing in it is lost on the wire, and its message between routers
has the one form in which it is read. Whatever can be read is such a unit
(`Npdu.wellFormed_of_decode`), so that reading and writing are inverse to each other on these units
(`Npdu.roundTrip`).
-/

namespace BACnet

namespace NetworkMessageType

theorem ofCode?_code (type : NetworkMessageType) : ofCode? type.code = some type := by
  cases type <;> rfl

end NetworkMessageType

/-! ## Messages between routers -/

namespace NetworkMessage

/-- All lines of the table can be sent, and all of their information. -/
structure FitsOctets (ports : List RoutingTablePort) : Prop where
  lines : ports.length ≤ 255
  info : ∀ port ∈ ports, port.info.length ≤ 255

/-- The message has the form in which it is read: only types that have no name are `other` types,
only those from 128 are makers' own, and a routing table fits the octets that count its parts. -/
def Canonical : NetworkMessage → Prop
  | other messageType _ =>
    messageType.toNat < 128 ∧ NetworkMessageType.ofCode? messageType = none
  | proprietary messageType _ _ => 128 ≤ messageType.toNat
  | initializeRoutingTable ports | initializeRoutingTableAck ports => FitsOctets ports
  | _ => True

theorem decodeNetworks?_encodeNetworks (networks : List UInt16) :
    decodeNetworks? (encodeNetworks networks) = some networks := by
  induction networks with
  | nil => rfl
  | cons first rest ih =>
    obtain ⟨high, low, octets, word⟩ := Octets.exists_ofWord16 first
    have front : encodeNetworks (first :: rest) = high :: low :: encodeNetworks rest := by
      rw [encodeNetworks, List.flatMap_cons, octets]
      rfl
    rw [front, decodeNetworks?, ih, word]
    rfl

theorem decodePorts?_encodePort (ports : List RoutingTablePort)
    (fits : ∀ port ∈ ports, port.info.length ≤ 255) :
    decodePorts? ports.length (ports.flatMap encodePort) = some ports := by
  induction ports with
  | nil => rfl
  | cons first rest ih =>
    have short := fits first List.mem_cons_self
    obtain ⟨high, low, octets, word⟩ := Octets.exists_ofWord16 first.network
    have front : (first :: rest).flatMap encodePort =
        high :: low :: first.portId :: UInt8.ofNat first.info.length ::
          (first.info ++ rest.flatMap encodePort) := by
      rw [List.flatMap_cons, encodePort, octets, List.take_of_length_le short]
      rfl
    rw [front, List.length_cons, decodePorts?, Octets.toNat_ofNat_length short,
      Octets.take?_append, List.drop_left, ih fun port member => fits port (.tail first member),
      word]
    rfl

theorem decodeTable?_encodePorts {ports : List RoutingTablePort} (fits : FitsOctets ports) :
    decodeTable? (encodePorts ports) = some ports := by
  have count : (UInt8.ofNat (min ports.length 255)).toNat = ports.length := by
    rw [Nat.min_eq_left fits.lines, UInt8.toNat_ofNat']
    have lines := fits.lines
    omega
  rw [encodePorts, decodeTable?, count, List.take_of_length_le fits.lines]
  exact decodePorts?_encodePort ports fits.info

theorem fits_of_decodePorts? {count : Nat} {data : Octets} {ports : List RoutingTablePort}
    (decodes : decodePorts? count data = some ports) :
    ports.length = count ∧ ∀ port ∈ ports, port.info.length ≤ 255 := by
  induction count generalizing data ports with
  | zero =>
    cases decodes
    exact ⟨rfl, List.forall_mem_nil _⟩
  | succ count ih =>
    unfold decodePorts? at decodes
    split at decodes
    · next none => cases none
    · next length rest equal =>
      cases equal
      obtain ⟨info, takes, decodes⟩ := Option.bind_eq_some_iff.mp decodes
      obtain ⟨others, behind, decodes⟩ := Option.bind_eq_some_iff.mp decodes
      cases decodes
      obtain ⟨lines, short⟩ := ih behind
      refine ⟨congrArg (· + 1) lines, List.forall_mem_cons.mpr ⟨?_, short⟩⟩
      rw [Octets.length_of_take? takes]
      exact Nat.le_of_lt_succ length.toNat_lt
    · cases decodes

theorem fits_of_decodeTable? {data : Octets} {ports : List RoutingTablePort}
    (decodes : decodeTable? data = some ports) : FitsOctets ports := by
  unfold decodeTable? at decodes
  split at decodes
  · cases decodes
  · next count rest =>
    obtain ⟨lines, info⟩ := fits_of_decodePorts? decodes
    exact ⟨lines ▸ Nat.le_of_lt_succ count.toNat_lt, info⟩

theorem decodeMessage_of_lt {messageType : UInt8} (low : messageType.toNat < 128)
    (data : Octets) :
    Npdu.decodeMessage (messageType :: data) = decode messageType none data :=
  if_neg (Bool.not_eq_true _ ▸ decide_eq_false (Nat.not_le_of_lt low))

theorem decode_of_lt {messageType : UInt8} (low : messageType.toNat < 128)
    (vendor : Option UInt16) (data : Octets) :
    decode messageType vendor data =
      match NetworkMessageType.ofCode? messageType with
      | none => .ok (other messageType data)
      | some type =>
        match decodeStandard? type data with
        | some message => .ok message
        | none => .error (.malformed (.payload messageType)) :=
  if_neg (Bool.not_eq_true _ ▸ decide_eq_false (Nat.not_le_of_lt low))

/-- A message is read from its payload if its type is one of the standard. -/
theorem decodeMessage_of_decodeStandard? (type : NetworkMessageType) {payload : Octets}
    {message : NetworkMessage} (reads : decodeStandard? type payload = some message) :
    Npdu.decodeMessage (type.code :: payload) = .ok message := by
  have low : type.code.toNat < 128 := by cases type <;> decide
  rw [decodeMessage_of_lt low, decode_of_lt low, NetworkMessageType.ofCode?_code]
  dsimp only
  rw [reads]

/-- A message in the form in which it is read is read back as it was. -/
theorem decodeMessage_encode {message : NetworkMessage} (canonical : message.Canonical) :
    Npdu.decodeMessage message.encode = .ok message := by
  have word := Octets.exists_ofWord16
  cases message with
  | whoIsRouterToNetwork network =>
    refine decodeMessage_of_decodeStandard? .whoIsRouterToNetwork ?_
    cases network with
    | none => rfl
    | some network =>
      obtain ⟨high, low, octets, spelled⟩ := word network
      rw [encodePayload, Option.map_some, Option.getD_some, octets, ← spelled]
      rfl
  | iAmRouterToNetwork networks =>
    refine decodeMessage_of_decodeStandard? .iAmRouterToNetwork ?_
    rw [encodePayload, decodeStandard?, decodeNetworks?_encodeNetworks]
    rfl
  | iCouldBeRouterToNetwork network index =>
    obtain ⟨high, low, octets, spelled⟩ := word network
    refine decodeMessage_of_decodeStandard? .iCouldBeRouterToNetwork ?_
    rw [encodePayload, octets, ← spelled]
    rfl
  | rejectMessageToNetwork reason network =>
    obtain ⟨high, low, octets, spelled⟩ := word network
    refine decodeMessage_of_decodeStandard? .rejectMessageToNetwork ?_
    rw [encodePayload, octets, ← spelled]
    rfl
  | routerBusyToNetwork networks =>
    refine decodeMessage_of_decodeStandard? .routerBusyToNetwork ?_
    rw [encodePayload, decodeStandard?, decodeNetworks?_encodeNetworks]
    rfl
  | routerAvailableToNetwork networks =>
    refine decodeMessage_of_decodeStandard? .routerAvailableToNetwork ?_
    rw [encodePayload, decodeStandard?, decodeNetworks?_encodeNetworks]
    rfl
  | initializeRoutingTable ports =>
    refine decodeMessage_of_decodeStandard? .initializeRoutingTable ?_
    rw [encodePayload, decodeStandard?, decodeTable?_encodePorts canonical]
    rfl
  | initializeRoutingTableAck ports =>
    refine decodeMessage_of_decodeStandard? .initializeRoutingTableAck ?_
    rw [encodePayload, decodeStandard?, decodeTable?_encodePorts canonical]
    rfl
  | establishConnectionToNetwork network time =>
    obtain ⟨high, low, octets, spelled⟩ := word network
    refine decodeMessage_of_decodeStandard? .establishConnectionToNetwork ?_
    rw [encodePayload, octets, ← spelled]
    rfl
  | disconnectConnectionToNetwork network =>
    obtain ⟨high, low, octets, spelled⟩ := word network
    refine decodeMessage_of_decodeStandard? .disconnectConnectionToNetwork ?_
    rw [encodePayload, octets, ← spelled]
    rfl
  | whatIsNetworkNumber =>
    exact decodeMessage_of_decodeStandard? .whatIsNetworkNumber rfl
  | networkNumberIs network configured =>
    obtain ⟨high, low, octets, spelled⟩ := word network
    refine decodeMessage_of_decodeStandard? .networkNumberIs ?_
    rw [encodePayload, octets, ← spelled]
    cases configured <;> rfl
  | other messageType data =>
    obtain ⟨low, unnamed⟩ := canonical
    show Npdu.decodeMessage (messageType :: data) = _
    rw [decodeMessage_of_lt low, decode_of_lt low, unnamed]
  | proprietary messageType vendorId data =>
    obtain ⟨high, low, octets, spelled⟩ := word vendorId
    have own : isProprietaryType messageType = true := decide_eq_true canonical
    rw [encode, encodePayload, octets, ← spelled]
    exact (if_pos own).trans (if_pos own)

/-- What is read of a standard type has the form in which it is read. -/
theorem canonical_of_decodeStandard? {type : NetworkMessageType} {data : Octets}
    {message : NetworkMessage} (reads : decodeStandard? type data = some message) :
    message.Canonical := by
  cases type with
  | initializeRoutingTable | initializeRoutingTableAck =>
    obtain ⟨ports, decodes, rfl⟩ := Option.map_eq_some_iff.mp reads
    exact fits_of_decodeTable? decodes
  | iAmRouterToNetwork | routerBusyToNetwork | routerAvailableToNetwork =>
    obtain ⟨networks, -, rfl⟩ := Option.map_eq_some_iff.mp reads
    trivial
  | whoIsRouterToNetwork | iCouldBeRouterToNetwork | rejectMessageToNetwork
  | establishConnectionToNetwork | disconnectConnectionToNetwork | networkNumberIs =>
    unfold decodeStandard? at reads
    dsimp only at reads
    split at reads <;> cases reads <;> trivial
  | whatIsNetworkNumber =>
    cases reads
    trivial

/-- Whatever is read has the form in which it is read. -/
theorem canonical_of_decodeMessage {data : Octets} {message : NetworkMessage}
    (decodes : Npdu.decodeMessage data = .ok message) : message.Canonical := by
  cases data with
  | nil => cases decodes
  | cons messageType rest =>
    by_cases low : messageType.toNat < 128
    · rw [decodeMessage_of_lt low, decode_of_lt low] at decodes
      cases named : NetworkMessageType.ofCode? messageType with
      | none =>
        rw [named] at decodes
        cases decodes
        exact ⟨low, named⟩
      | some type =>
        rw [named] at decodes
        dsimp only at decodes
        split at decodes
        · next reads =>
          cases decodes
          exact canonical_of_decodeStandard? reads
        · cases decodes
    · have own : isProprietaryType messageType = true := decide_eq_true (Nat.le_of_not_lt low)
      unfold Npdu.decodeMessage at decodes
      dsimp only at decodes
      rw [if_pos own] at decodes
      split at decodes
      · rw [decode, if_pos own] at decodes
        cases decodes
        exact Nat.le_of_not_lt low
      · cases decodes

end NetworkMessage

/-! ## Units -/

namespace Npdu

/-- The addresses of the unit can be sent: no network number in it stands for the sender's own
network, the source is a single station, and the lengths of the MAC addresses fit an octet. -/
structure Addressable (npdu : Npdu) : Prop where
  destination : ∀ address, npdu.destination = some address →
    address.network ≠ 0 ∧ address.mac.length ≤ 255
  source : ∀ address, npdu.source = some address →
    address.network ≠ 0 ∧ address.network ≠ 65535 ∧ address.mac ≠ [] ∧ address.mac.length ≤ 255

/-- Nothing of the unit is lost on the wire: it has the hop count that is not sent if there is no
destination, and its message between routers has the form in which it is read. -/
structure WellFormed (npdu : Npdu) : Prop where
  hopCount : npdu.destination = none → npdu.hopCount = 255
  message : ∀ message, npdu.body = .network message → message.Canonical

/-- The control octet tells which parts follow, whether a reply is expected, and the urgency. -/
theorem control_bits (npdu : Npdu) :
    Octets.bit npdu.control 7 = npdu.body.isNetwork ∧
      Octets.bit npdu.control 5 = npdu.destination.isSome ∧
      Octets.bit npdu.control 3 = npdu.source.isSome ∧
      Octets.bit npdu.control 2 = npdu.expectingReply ∧
      NetworkPriority.ofBits npdu.control = npdu.priority := by
  unfold control
  generalize npdu.body.isNetwork = network, npdu.destination.isSome = destination,
    npdu.source.isSome = source, npdu.expectingReply = expectingReply
  cases npdu.priority <;> revert network destination source expectingReply <;> decide

/-! ### Addresses -/

theorem exists_encodeAddress_iff (role : AddressRole) (address : Address) :
    (∃ octets, encodeAddress role address = .ok octets) ↔
      address.network ≠ 0 ∧ address.mac.length ≤ 255 := by
  unfold encodeAddress Address.isLocal Address.localNetwork
  by_cases here : address.network = 0
  · simp [here]
  · by_cases long : 255 < address.mac.length
    · simp [here, long]
    · simp [here, long, Nat.le_of_not_lt long]

/-- An address that is written is read back, with what follows it. -/
theorem decodeAddress_append {role : AddressRole} {address : Address} {octets : Octets}
    (encodes : encodeAddress role address = .ok octets) (network length mac : NpduField)
    (rest : Octets) :
    decodeAddress network length mac (octets ++ rest) = .ok (address, rest) := by
  have short := ((exists_encodeAddress_iff role address).mp ⟨octets, encodes⟩).2
  obtain ⟨high, low, word, spelled⟩ := Octets.exists_ofWord16 address.network
  unfold encodeAddress at encodes
  split at encodes
  · cases encodes
  · split at encodes
    · cases encodes
    · cases encodes
      rw [word, List.append_assoc, List.cons_append, List.cons_append, List.nil_append,
        List.cons_append, decodeAddress, Octets.toNat_ofNat_length short, Octets.take?_append,
        List.drop_left, spelled]

/-- An address that is read has a MAC that fits. -/
theorem length_of_decodeAddress {network length mac : NpduField} {data rest : Octets}
    {address : Address}
    (decodes : decodeAddress network length mac data = .ok (address, rest)) :
    address.mac.length ≤ 255 := by
  unfold decodeAddress at decodes
  split at decodes
  · split at decodes
    · cases decodes
    · next count _ =>
      split at decodes
      · next takes =>
        cases decodes
        rw [Octets.length_of_take? takes]
        exact Nat.le_of_lt_succ count.toNat_lt
      · cases decodes
  · cases decodes

/-! ### Writing -/

theorem exists_encodeDestination_iff (destination : Option Address) :
    (∃ octets, encodeDestination destination = .ok octets) ↔
      ∀ address, destination = some address →
        address.network ≠ 0 ∧ address.mac.length ≤ 255 := by
  cases destination with
  | none => simp [encodeDestination]
  | some address =>
    rw [encodeDestination, exists_encodeAddress_iff]
    simp

theorem exists_encodeSource_iff (source : Option Address) :
    (∃ octets, encodeSource source = .ok octets) ↔
      ∀ address, source = some address →
        address.network ≠ 0 ∧ address.network ≠ 65535 ∧ address.mac ≠ [] ∧
          address.mac.length ≤ 255 := by
  cases source with
  | none => simp [encodeSource]
  | some address =>
    have many : address.isGlobal ∨ address.isBroadcast ↔
        address.network = 65535 ∨ address.mac = [] := by
      simp [Address.isGlobal, Address.isBroadcast, Address.globalNetwork]
    unfold encodeSource
    dsimp only
    split
    · next refused =>
      rcases many.mp refused with all | all <;> simp [all]
    · next single =>
      rw [many, not_or] at single
      rw [exists_encodeAddress_iff]
      simp [single]

/-- What is written, if both addresses can be. -/
theorem encode_eq_ok_iff {npdu : Npdu} {octets : Octets} :
    npdu.encode = .ok octets ↔ ∃ destination source,
      encodeDestination npdu.destination = .ok destination ∧
        encodeSource npdu.source = .ok source ∧
        octets = protocolVersion :: npdu.control :: (destination ++ (source ++
          ((if npdu.destination.isSome then [npdu.hopCount] else []) ++ encodeBody npdu.body))) := by
  constructor
  · intro encodes
    obtain ⟨destination, wrote, encodes⟩ := exists_of_bind_eq_ok encodes
    obtain ⟨source, named, encodes⟩ := exists_of_bind_eq_ok encodes
    cases encodes
    exact ⟨destination, source, wrote, named, by simp⟩
  · rintro ⟨destination, source, wrote, named, rfl⟩
    rw [encode, wrote, named]
    simp [bind, Except.bind]

theorem exists_encode_iff (npdu : Npdu) :
    (∃ octets, npdu.encode = .ok octets) ↔ npdu.Addressable := by
  constructor
  · rintro ⟨octets, encodes⟩
    obtain ⟨destination, source, wrote, named, -⟩ := encode_eq_ok_iff.mp encodes
    exact ⟨(exists_encodeDestination_iff _).mp ⟨destination, wrote⟩,
      (exists_encodeSource_iff _).mp ⟨source, named⟩⟩
  · intro addressable
    obtain ⟨destination, wrote⟩ := (exists_encodeDestination_iff _).mpr addressable.destination
    obtain ⟨source, named⟩ := (exists_encodeSource_iff _).mpr addressable.source
    exact ⟨_, encode_eq_ok_iff.mpr ⟨destination, source, wrote, named, rfl⟩⟩

/-! ### Reading -/

theorem decodeDestination_append {destination : Option Address} {octets : Octets}
    (encodes : encodeDestination destination = .ok octets) {control : UInt8}
    (tells : Octets.bit control 5 = destination.isSome) (rest : Octets) :
    decodeDestination control (octets ++ rest) = .ok (destination, rest) := by
  unfold decodeDestination
  rw [tells]
  cases destination with
  | none =>
    cases encodes
    rfl
  | some address =>
    have far := ((exists_encodeDestination_iff _).mp ⟨octets, encodes⟩ address rfl).1
    rw [Option.isSome_some, if_pos rfl, decodeAddress_append encodes]
    simp [bind, Except.bind, Address.isLocal, Address.localNetwork, far]

theorem decodeSource_append {source : Option Address} {octets : Octets}
    (encodes : encodeSource source = .ok octets) {control : UInt8}
    (tells : Octets.bit control 3 = source.isSome) (rest : Octets) :
    decodeSource control (octets ++ rest) = .ok (source, rest) := by
  unfold decodeSource
  rw [tells]
  cases source with
  | none =>
    cases encodes
    rfl
  | some address =>
    obtain ⟨far, single, station, -⟩ :=
      (exists_encodeSource_iff _).mp ⟨octets, encodes⟩ address rfl
    have plain : encodeAddress .source address = .ok octets := by
      unfold encodeSource at encodes
      dsimp only at encodes
      split at encodes
      · cases encodes
      · exact encodes
    rw [Option.isSome_some, if_pos rfl, decodeAddress_append plain]
    simp [bind, Except.bind, Address.isLocal, Address.localNetwork, Address.isGlobal,
      Address.globalNetwork, Address.isBroadcast, far, single, station]

theorem decodeHopCount_append (npdu : Npdu) (unsent : npdu.destination = none → npdu.hopCount = 255)
    (rest : Octets) :
    decodeHopCount npdu.destination
      ((if npdu.destination.isSome then [npdu.hopCount] else []) ++ rest) =
        .ok (npdu.hopCount, rest) := by
  cases known : npdu.destination with
  | none =>
    rw [unsent known]
    rfl
  | some address => rfl

theorem decodeBody_encodeBody {body : NpduBody}
    (canonical : ∀ message, body = .network message → message.Canonical) {control : UInt8}
    (tells : Octets.bit control 7 = body.isNetwork) :
    decodeBody control (encodeBody body) = .ok body := by
  unfold decodeBody
  rw [tells]
  cases body with
  | apdu data => rfl
  | network message =>
    rw [NpduBody.isNetwork, if_pos rfl, encodeBody,
      NetworkMessage.decodeMessage_encode (canonical message rfl)]
    rfl

/-- A well-formed unit that is written is read back as it was. -/
theorem decode_of_encode {npdu : Npdu} (wellFormed : npdu.WellFormed) {octets : Octets}
    (encodes : npdu.encode = .ok octets) : decode octets = .ok npdu := by
  obtain ⟨destination, source, wrote, named, rfl⟩ := encode_eq_ok_iff.mp encodes
  obtain ⟨network, toward, origin, reply, priority⟩ := npdu.control_bits
  show decodeRest npdu.control _ = _
  unfold decodeRest
  simp only [decodeDestination_append wrote toward, decodeSource_append named origin,
    decodeHopCount_append npdu wellFormed.hopCount,
    decodeBody_encodeBody wellFormed.message network, reply, priority, bind, Except.bind]

theorem addressable_of_decodeDestination {control : UInt8} {data rest : Octets}
    {destination : Option Address}
    (decodes : decodeDestination control data = .ok (destination, rest)) :
    ∀ address, destination = some address → address.network ≠ 0 ∧ address.mac.length ≤ 255 := by
  unfold decodeDestination at decodes
  split at decodes
  · obtain ⟨⟨address, behind⟩, read, decodes⟩ := exists_of_bind_eq_ok decodes
    dsimp only at decodes
    split at decodes
    · cases decodes
    · next far =>
      cases decodes
      rintro _ ⟨⟩
      exact ⟨by simpa [Address.isLocal, Address.localNetwork] using far,
        length_of_decodeAddress read⟩
  · cases decodes
    rintro _ ⟨⟩

theorem addressable_of_decodeSource {control : UInt8} {data rest : Octets}
    {source : Option Address} (decodes : decodeSource control data = .ok (source, rest)) :
    ∀ address, source = some address →
      address.network ≠ 0 ∧ address.network ≠ 65535 ∧ address.mac ≠ [] ∧
        address.mac.length ≤ 255 := by
  unfold decodeSource at decodes
  split at decodes
  · obtain ⟨⟨address, behind⟩, read, decodes⟩ := exists_of_bind_eq_ok decodes
    dsimp only at decodes
    split at decodes
    · cases decodes
    · next numbered =>
      split at decodes
      · cases decodes
      · next station =>
        cases decodes
        rintro _ ⟨⟩
        have numbered : address.network ≠ 0 ∧ address.network ≠ 65535 := by
          simpa [Address.isLocal, Address.localNetwork, Address.isGlobal,
            Address.globalNetwork] using numbered
        exact ⟨numbered.1, numbered.2, by simpa [Address.isBroadcast] using station,
          length_of_decodeAddress read⟩
  · cases decodes
    rintro _ ⟨⟩

theorem hopCount_of_decodeHopCount {destination : Option Address} {data rest : Octets}
    {hopCount : UInt8} (decodes : decodeHopCount destination data = .ok (hopCount, rest)) :
    destination = none → hopCount = 255 := by
  rintro rfl
  cases decodes
  rfl

theorem canonical_of_decodeBody {control : UInt8} {data : Octets} {body : NpduBody}
    (decodes : decodeBody control data = .ok body) :
    ∀ message, body = .network message → message.Canonical := by
  rintro message rfl
  unfold decodeBody at decodes
  split at decodes
  · cases read : decodeMessage data with
    | error error =>
      rw [read] at decodes
      cases decodes
    | ok other =>
      rw [read] at decodes
      cases decodes
      exact NetworkMessage.canonical_of_decodeMessage read
  · cases decodes

/-- A unit that is read is well formed, and its addresses can be sent. -/
theorem wellFormed_of_decode {octets : Octets} {npdu : Npdu} (decodes : decode octets = .ok npdu) :
    npdu.WellFormed ∧ npdu.Addressable := by
  unfold decode at decodes
  split at decodes
  · cases decodes
  · split at decodes
    · split at decodes
      · cases decodes
      · next control rest =>
        unfold decodeRest at decodes
        obtain ⟨⟨destination, afterDestination⟩, toward, decodes⟩ := exists_of_bind_eq_ok decodes
        obtain ⟨⟨source, afterSource⟩, origin, decodes⟩ := exists_of_bind_eq_ok decodes
        obtain ⟨⟨hopCount, afterHopCount⟩, hops, decodes⟩ := exists_of_bind_eq_ok decodes
        obtain ⟨body, carried, decodes⟩ := exists_of_bind_eq_ok decodes
        cases decodes
        exact ⟨⟨hopCount_of_decodeHopCount hops, canonical_of_decodeBody carried⟩,
          addressable_of_decodeDestination toward, addressable_of_decodeSource origin⟩
    · cases decodes

/-! ### Reading and writing -/

theorem encode_fails_iff (npdu : Npdu) :
    (∃ error, npdu.encode = .error error) ↔ ¬ npdu.Addressable := by
  rw [← exists_encode_iff]
  cases npdu.encode <;> simp

theorem not_addressable_iff (npdu : Npdu) :
    ¬ npdu.Addressable ↔
      (∃ address, npdu.destination = some address ∧
        (address.network = 0 ∨ 255 < address.mac.length)) ∨
      ∃ address, npdu.source = some address ∧
        (address.network = 0 ∨ address.network = 65535 ∨ address.mac = [] ∨
          255 < address.mac.length) := by
  have parts : npdu.Addressable ↔
      (∀ address, npdu.destination = some address →
        address.network ≠ 0 ∧ address.mac.length ≤ 255) ∧
      ∀ address, npdu.source = some address →
        address.network ≠ 0 ∧ address.network ≠ 65535 ∧ address.mac ≠ [] ∧
          address.mac.length ≤ 255 :=
    ⟨fun ⟨destination, source⟩ => ⟨destination, source⟩,
      fun ⟨destination, source⟩ => ⟨destination, source⟩⟩
  simp only [parts, Classical.not_and_iff_not_or_not, Classical.not_forall, exists_prop, ne_eq,
    Classical.not_not, Nat.not_le]

/-- A unit is refused if and only if a network number or a MAC address in it cannot be sent. A unit
that is not refused and loses nothing on the wire is read back as it was, and every unit that is
read is such a unit. -/
theorem roundTrip :
    (∀ npdu : Npdu,
      ((∃ error, npdu.encode = .error error) ↔
        (∃ address, npdu.destination = some address ∧
          (address.network = 0 ∨ 255 < address.mac.length)) ∨
        ∃ address, npdu.source = some address ∧
          (address.network = 0 ∨ address.network = 65535 ∨ address.mac = [] ∨
            255 < address.mac.length)) ∧
      (npdu.WellFormed → ∀ octets, npdu.encode = .ok octets → decode octets = .ok npdu)) ∧
    ∀ octets npdu, decode octets = .ok npdu →
      npdu.WellFormed ∧ ∃ again, npdu.encode = .ok again ∧ decode again = .ok npdu := by
  refine ⟨fun npdu => ⟨?_, fun wellFormed octets => decode_of_encode wellFormed⟩, ?_⟩
  · rw [encode_fails_iff, not_addressable_iff]
  · intro octets npdu decodes
    obtain ⟨wellFormed, addressable⟩ := wellFormed_of_decode decodes
    obtain ⟨again, encodes⟩ := (exists_encode_iff npdu).mpr addressable
    exact ⟨wellFormed, again, encodes, decode_of_encode wellFormed encodes⟩

/-- A router that is on its way to all stations of network 7 fills their routing tables. -/
theorem roundTrip_initializeRoutingTable :
    decode [1, 173, 0, 7, 0, 0, 9, 1, 3, 254, 6, 1, 0, 5, 2, 1, 65] =
      .ok ⟨.urgent, true, some ⟨7, []⟩, some ⟨9, [3]⟩, 254,
        .network (.initializeRoutingTable [⟨5, 2, [65]⟩])⟩ :=
  (roundTrip.1 _).2
    ⟨by rintro ⟨⟩, by rintro _ ⟨⟩; exact ⟨by decide, by decide⟩⟩
    _ rfl

end Npdu

end BACnet
