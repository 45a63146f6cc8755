import BACnet.Network.Npdu
import BACnet.Proofs.Bounds.Buffer

/-!
# Bounds of the network layer

The decoder of network protocol data units on a machine, with the messages between routers.
-/

namespace BACnet

open Guarded (orError)

/-! ## Messages between routers -/

namespace Guarded

/-- Reads network numbers from octets that must come in pairs. -/
def decodeNetworks (malformed : NetworkError) (data : Octets) :
    Guarded NetworkError (List UInt16) :=
  if data.length % 2 = 0 then
    (chunks 2 data).mapM fun pair => do
      pure (Octets.word16 (← octet pair 0) (← octet pair 1))
  else throw malformed

theorem decodeNetworks_eq (malformed : NetworkError) (data : Octets) :
    decodeNetworks malformed data = orError malformed (NetworkMessage.decodeNetworks? data) := by
  unfold decodeNetworks
  induction data using NetworkMessage.decodeNetworks?.induct with
  | case1 =>
    rw [chunks_of_lt Nat.zero_lt_two]
    rfl
  | case2 => rfl
  | case3 high low rest ih =>
    have parity : (high :: low :: rest).length % 2 = rest.length % 2 :=
      Nat.add_mod_right rest.length 2
    rw [parity, NetworkMessage.decodeNetworks?]
    split
    · next even =>
      rw [if_pos even] at ih
      rw [chunks_two, List.mapM_cons, ih]
      cases NetworkMessage.decodeNetworks? rest <;> rfl
    · next odd =>
      rw [if_neg odd] at ih
      cases decoded : NetworkMessage.decodeNetworks? rest with
      | none => rfl
      | some networks =>
        rw [decoded] at ih
        cases ih

end Guarded

namespace BufferRead

/-- Reads a line of a routing table. -/
def routingTablePort (malformed : NetworkError) : BufferRead NetworkError RoutingTablePort := do
  let network ← word malformed
  let portId ← octet malformed
  let length ← octet malformed
  let info ← skipped length.toNat malformed
  pure ⟨network, portId, info⟩

/-- Reads `count` lines of a routing table. -/
def routingTablePorts (malformed : NetworkError) :
    Nat → BufferRead NetworkError (List RoutingTablePort)
  | 0 => pure []
  | count + 1 => do
    let port ← routingTablePort malformed
    (port :: ·) <$> routingTablePorts malformed count

/-- Reads a routing table. -/
def routingTable (malformed : NetworkError) : BufferRead NetworkError (List RoutingTablePort) := do
  let count ← octet malformed
  routingTablePorts malformed count.toNat

theorem mirrors_routingTablePort (malformed : NetworkError) :
    Mirrors (routingTablePort malformed) fun
      | high :: low :: portId :: length :: rest =>
        match Octets.take? length.toNat rest with
        | some info => .ok (⟨Octets.word16 high low, portId, info⟩, rest.drop length.toNat)
        | none => .error malformed
      | _ => .error malformed := by
  refine ((mirrors_word malformed).bind fun _ => (mirrors_octet malformed).bind fun _ =>
    (mirrors_octet malformed).bind fun length => (mirrors_skipped length.toNat malformed).bind
      fun _ => .pure _).congr fun data => ?_
  match data with
  | high :: low :: portId :: length :: rest =>
    dsimp only [bind, Except.bind]
    cases Octets.take? length.toNat rest <;> rfl
  | [] | [_] | [_, _] | [_, _, _] => rfl

theorem yields_routingTablePorts (malformed : NetworkError) (count : Nat) :
    Yields (routingTablePorts malformed count) fun data =>
      (NetworkMessage.decodePorts? count data).elim (.error malformed) .ok := by
  induction count with
  | zero => exact (Guarded.Mirrors.pure []).yields.congr fun _ => rfl
  | succ count ih =>
    refine ((mirrors_routingTablePort malformed).bind_yields fun port => ih.map (port :: ·)).congr
      fun data => ?_
    match data with
    | high :: low :: portId :: length :: rest =>
      dsimp only [bind, Except.bind, NetworkMessage.decodePorts?]
      cases Octets.take? length.toNat rest with
      | none => rfl
      | some info =>
        dsimp only [Option.bind]
        cases NetworkMessage.decodePorts? count (rest.drop length.toNat) <;> rfl
    | [] | [_] | [_, _] | [_, _, _] => rfl

theorem yields_routingTable (malformed : NetworkError) :
    Yields (routingTable malformed) fun data =>
      (NetworkMessage.decodeTable? data).elim (.error malformed) .ok := by
  refine ((mirrors_octet malformed).bind_yields fun count =>
    yields_routingTablePorts malformed count.toNat).congr fun data => ?_
  cases data <;> rfl

/-- Reads a message of a standard type. -/
def standardMessage (malformed : NetworkError) (type : NetworkMessageType) (data : Octets) :
    Guarded NetworkError NetworkMessage :=
  match type with
  | .whoIsRouterToNetwork =>
    if data.length = 0 then pure (.whoIsRouterToNetwork none)
    else decode (do pure (.whoIsRouterToNetwork (some (← word malformed)))) data
  | .iAmRouterToNetwork => .iAmRouterToNetwork <$> Guarded.decodeNetworks malformed data
  | .iCouldBeRouterToNetwork =>
    decode (do pure (.iCouldBeRouterToNetwork (← word malformed) (← octet malformed))) data
  | .rejectMessageToNetwork =>
    decode (do pure (.rejectMessageToNetwork ⟨← octet malformed⟩ (← word malformed))) data
  | .routerBusyToNetwork => .routerBusyToNetwork <$> Guarded.decodeNetworks malformed data
  | .routerAvailableToNetwork => .routerAvailableToNetwork <$> Guarded.decodeNetworks malformed data
  | .initializeRoutingTable =>
    .initializeRoutingTable <$> decode (routingTable malformed) data
  | .initializeRoutingTableAck =>
    .initializeRoutingTableAck <$> decode (routingTable malformed) data
  | .establishConnectionToNetwork =>
    decode (do pure (.establishConnectionToNetwork (← word malformed) (← octet malformed))) data
  | .disconnectConnectionToNetwork =>
    decode (do pure (.disconnectConnectionToNetwork (← word malformed))) data
  | .whatIsNetworkNumber => pure .whatIsNetworkNumber
  | .networkNumberIs =>
    decode (do pure (.networkNumberIs (← word malformed) ((← octet malformed) == 1))) data

/-- Reads a message from the octets behind its type and its vendor number. -/
def networkMessage (messageType : UInt8) (vendorId : Option UInt16) (data : Octets) :
    Guarded NetworkError NetworkMessage :=
  if NetworkMessage.isProprietaryType messageType then do
    let vendor ← orError (.malformed (.payload messageType)) vendorId
    pure (.proprietary messageType vendor data)
  else
    match NetworkMessageType.ofCode? messageType with
    | none => pure (.other messageType data)
    | some type => standardMessage (.malformed (.payload messageType)) type data

theorem standardMessage_eq (malformed : NetworkError) (type : NetworkMessageType) {data : Octets}
    (fits : data.length ≤ maxCount) :
    standardMessage malformed type data =
      orError malformed (NetworkMessage.decodeStandard? type data) := by
  have table : decode (routingTable malformed) data =
      orError malformed (NetworkMessage.decodeTable? data) := by
    rw [decode_eq (yields_routingTable malformed) fits]
    cases NetworkMessage.decodeTable? data <;> rfl
  cases type with
  | iAmRouterToNetwork | routerBusyToNetwork | routerAvailableToNetwork =>
    show _ <$> Guarded.decodeNetworks malformed data = _
    rw [Guarded.decodeNetworks_eq, Guarded.orError_map]
    rfl
  | initializeRoutingTable | initializeRoutingTableAck =>
    show _ <$> decode _ data = _
    rw [table, Guarded.orError_map]
    rfl
  | whoIsRouterToNetwork | disconnectConnectionToNetwork =>
    unfold standardMessage
    dsimp only
    rw [decode_eq ((mirrors_word malformed).bind fun _ => .pure _).yields fits]
    rcases data with _ | ⟨high, _ | ⟨low, rest⟩⟩ <;> rfl
  | iCouldBeRouterToNetwork | establishConnectionToNetwork | networkNumberIs =>
    unfold standardMessage
    dsimp only
    rw [decode_eq ((mirrors_word malformed).bind fun _ =>
      (mirrors_octet malformed).bind fun _ => .pure _).yields fits]
    rcases data with _ | ⟨high, _ | ⟨low, _ | ⟨octet, rest⟩⟩⟩ <;> rfl
  | rejectMessageToNetwork =>
    unfold standardMessage
    dsimp only
    rw [decode_eq ((mirrors_octet malformed).bind fun _ =>
      (mirrors_word malformed).bind fun _ => .pure _).yields fits]
    rcases data with _ | ⟨reason, _ | ⟨high, _ | ⟨low, rest⟩⟩⟩ <;> rfl
  | whatIsNetworkNumber => rfl

theorem networkMessage_eq (messageType : UInt8) (vendorId : Option UInt16) {data : Octets}
    (fits : data.length ≤ maxCount) :
    networkMessage messageType vendorId data =
      Guarded.of (NetworkMessage.decode messageType vendorId data) := by
  unfold networkMessage NetworkMessage.decode
  split
  · cases vendorId <;> rfl
  · cases NetworkMessageType.ofCode? messageType with
    | none => rfl
    | some type =>
      dsimp only
      rw [standardMessage_eq _ type fits]
      cases NetworkMessage.decodeStandard? type data <;> rfl

/-! ## Units -/

/-- What is said of a field that is cut short. -/
def cutShort (field : NpduField) : NetworkError := .malformed (.truncated field)

/-- Reads an address. -/
def address (network length mac : NpduField) : BufferRead NetworkError Address := do
  let network ← word (cutShort network)
  let count ← octet (cutShort length)
  let mac ← octets count.toNat (cutShort mac)
  pure ⟨network, mac⟩

/-- Reads the destination, if there is one. -/
def destination (control : UInt8) : BufferRead NetworkError (Option Address) := do
  if Octets.bit control 5 then
    let address ← address .dnet .dlen .dadr
    if address.isLocal then throw (.malformed .destinationNetwork) else pure (some address)
  else pure none

/-- Reads the source, if there is one. -/
def source (control : UInt8) : BufferRead NetworkError (Option Address) := do
  if Octets.bit control 3 then
    let address ← address .snet .slen .sadr
    if address.isLocal ∨ address.isGlobal then throw (.malformed (.sourceNetwork address.network))
    else if address.isBroadcast then throw (.malformed .sourceLength)
    else pure (some address)
  else pure none

/-- Reads the hop count, if there is a destination. -/
def hopCount (destination : Option Address) : BufferRead NetworkError UInt8 :=
  if destination.isSome then octet (cutShort .hopCount) else pure Npdu.defaultHopCount

/-- Reads the vendor number of a message that belongs to the maker of a device. -/
def vendorId (messageType : UInt8) : BufferRead NetworkError (Option UInt16) :=
  if NetworkMessage.isProprietaryType messageType then do
    pure (some (← word (cutShort .vendorId)))
  else pure none

/-- Reads what is behind the type and the vendor number of a message. -/
def payload (messageType : UInt8) (vendorId : Option UInt16) :
    BufferRead NetworkError NetworkMessage := do
  StateT.lift (networkMessage messageType vendorId (← rest))

/-- Reads a message between routers. -/
def message : BufferRead NetworkError NetworkMessage := do
  let messageType ← octet (cutShort .messageType)
  let vendorId ← vendorId messageType
  payload messageType vendorId

/-- Reads the body. -/
def body (control : UInt8) : BufferRead NetworkError NpduBody :=
  if Octets.bit control 7 then NpduBody.network <$> message else NpduBody.apdu <$> rest

/-- Reads a unit behind its control octet. -/
def behindControl (control : UInt8) : BufferRead NetworkError Npdu := do
  let destination ← destination control
  let source ← source control
  let hopCount ← hopCount destination
  (⟨.ofBits control, Octets.bit control 2, destination, source, hopCount, ·⟩) <$> body control

/-- Reads a unit. -/
def npdu : BufferRead NetworkError Npdu := do
  let version ← octet (cutShort .version)
  if version = protocolVersion then
    let control ← octet (cutShort .control)
    behindControl control
  else throw (.unsupportedVersion version)

theorem mirrors_address (network length mac : NpduField) :
    Mirrors (address network length mac) (Npdu.decodeAddress network length mac) := by
  refine ((mirrors_word _).bind fun _ => (mirrors_octet _).bind fun count =>
    (mirrors_octets count.toNat _).bind fun _ => .pure _).congr fun data => ?_
  match data with
  | high :: low :: count :: rest =>
    dsimp only [bind, Except.bind, Npdu.decodeAddress]
    cases Octets.take? count.toNat rest <;> rfl
  | [] | [_] | [_, _] => rfl

theorem mirrors_destination (control : UInt8) :
    Mirrors (destination control) (Npdu.decodeDestination control) :=
  .ite _ (fun _ => (mirrors_address _ _ _).bind fun _ =>
    .ite _ (fun _ => .throw _) fun _ => .pure _) fun _ => .pure none

theorem mirrors_source (control : UInt8) :
    Mirrors (source control) (Npdu.decodeSource control) :=
  .ite _ (fun _ => (mirrors_address _ _ _).bind fun _ => .ite _ (fun _ => .throw _) fun _ =>
    .ite _ (fun _ => .throw _) fun _ => .pure _) fun _ => .pure none

theorem mirrors_hopCount (destination : Option Address) :
    Mirrors (hopCount destination) (Npdu.decodeHopCount destination) := by
  cases destination with
  | none => exact Guarded.Mirrors.pure _
  | some address =>
    refine (mirrors_octet _).congr fun data => ?_
    cases data <;> rfl

theorem yields_payload (messageType : UInt8) (vendorId : Option UInt16) :
    Yields (payload messageType vendorId) (NetworkMessage.decode messageType vendorId) := by
  intro buffer within
  rw [payload, StateT.run_bind, run_rest within, pure_bind, StateT.run_lift,
    networkMessage_eq messageType vendorId within.remaining_fits]
  cases NetworkMessage.decode messageType vendorId buffer.remaining <;> rfl

theorem yields_message : Yields message Npdu.decodeMessage := by
  have vendor (messageType : UInt8) : Mirrors (vendorId messageType) _ :=
    .ite (NetworkMessage.isProprietaryType messageType = true)
      (fun _ => (mirrors_word _).bind fun _ => .pure _) fun _ => .pure none
  refine ((mirrors_octet _).bind_yields fun messageType =>
    (vendor messageType).bind_yields fun vendorId => yields_payload messageType vendorId).congr
    fun data => ?_
  match data with
  | [] => rfl
  | messageType :: rest =>
    dsimp only [bind, Except.bind, Npdu.decodeMessage]
    cases NetworkMessage.isProprietaryType messageType with
    | false => rfl
    | true =>
      match rest with
      | [] | [_] | _ :: _ :: _ => rfl

theorem yields_body (control : UInt8) : Yields (body control) (Npdu.decodeBody control) :=
  .ite _ (fun _ => yields_message.map _) fun _ =>
    (mirrors_rest.yields.map NpduBody.apdu).congr fun _ => rfl

theorem yields_behindControl (control : UInt8) :
    Yields (behindControl control) (Npdu.decodeRest control) :=
  (mirrors_destination control).bind_yields fun destination =>
    (mirrors_source control).bind_yields fun _ =>
      (mirrors_hopCount destination).bind_yields fun _ => (yields_body control).map _

theorem yields_npdu : Yields npdu Npdu.decode := by
  refine ((mirrors_octet _).bind_yields fun version => .ite (version = protocolVersion)
    (fun _ => (mirrors_octet _).bind_yields yields_behindControl)
    fun _ => (Guarded.Mirrors.throw _).yields).congr fun data => ?_
  match data with
  | [] => rfl
  | version :: rest =>
    dsimp only [bind, Except.bind, Npdu.decode]
    split
    · cases rest <;> rfl
    · rfl

end BufferRead

namespace Guarded

/-- Reads a network protocol data unit. -/
def decodeNpdu (data : Octets) : Guarded NetworkError Npdu := BufferRead.decode BufferRead.npdu data

theorem decodeNpdu_eq {data : Octets} (fits : data.length ≤ maxCount) :
    decodeNpdu data = of (Npdu.decode data) :=
  BufferRead.decode_eq BufferRead.yields_npdu fits

end Guarded

end BACnet
