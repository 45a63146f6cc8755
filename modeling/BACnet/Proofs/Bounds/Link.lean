import BACnet.Link.Bvlc
import BACnet.Link.Mstp
import BACnet.Proofs.Bounds.Buffer

/-!
# Bounds of the links

The decoders of BACnet/IP and MS/TP frames on a machine.
-/

namespace BACnet

open Guarded (orError)

theorem BvlcHeader.four_le_length_of_decode {data : Octets} {header : BvlcHeader}
    (reads : BvlcHeader.decode data = .ok header) : 4 ≤ data.length := by
  match data with
  | [] => cases reads
  | [type] =>
    dsimp only [BvlcHeader.decode] at reads
    split at reads <;> cases reads
  | [type, code] | [type, code, _] =>
    dsimp only [BvlcHeader.decode] at reads
    split at reads
    · cases function : BvlcFunction.ofCode code <;> rw [function] at reads <;> cases reads
    · cases reads
  | _ :: _ :: _ :: _ :: rest => exact Nat.le_add_left 4 rest.length

namespace BufferRead

variable {α : Type}

/-! ## BACnet/IP -/

/-- What is said of a body of the wrong length. -/
def invalid (part : BvlcPart) : LinkError := .invalidFrame (.bvlcBody part)

/-- Reads the head of a frame. -/
def bvlcHeader : BufferRead LinkError BvlcHeader := do
  let type ← octet (.invalidFrame .bvlcHeader)
  if type = BvlcHeader.typeOctet then
    let code ← octet (.invalidFrame .bvlcHeader)
    let function ← StateT.lift (Guarded.of (BvlcFunction.ofCode code))
    let length ← word (.invalidFrame .bvlcHeader)
    pure ⟨function, length⟩
  else throw (.invalidFrame (.bvlcType type))

/-- Reads an address with its port. -/
def socketAddress (part : BvlcPart) : BufferRead LinkError SocketAddress := do
  let mac ← octets 6 (invalid part)
  StateT.lift (orError (invalid part) (SocketAddress.ofMac mac).toOption)

/-- Reads a line of a broadcast distribution table. -/
def broadcastEntry : BufferRead LinkError BroadcastEntry := do
  let address ← socketAddress .broadcastTable
  let mask ← spelled 4 (invalid .broadcastTable) fun mask => do
    pure (Octets.word32 (← Guarded.octet mask 0) (← Guarded.octet mask 1) (← Guarded.octet mask 2)
      (← Guarded.octet mask 3))
  pure ⟨address, mask⟩

/-- Reads a line of a foreign device table. -/
def foreignEntry : BufferRead LinkError ForeignEntry := do
  let address ← socketAddress .foreignDeviceTable
  let timeToLive ← word (invalid .foreignDeviceTable)
  let remaining ← word (invalid .foreignDeviceTable)
  pure ⟨address, timeToLive, remaining⟩

/-- Reads lines as long as ten octets are left. At most `fuel` lines are read; each takes an octet,
so the number of octets suffices. -/
def lines (line : BufferRead LinkError α) : Nat → BufferRead LinkError (List α)
  | 0 => pure []
  | fuel + 1 => do
    if (← get).hasRemaining 10 then
      let first ← line
      (first :: ·) <$> lines line fuel
    else pure []

/-- Reads a table whose lines have ten octets each. -/
def table (part : BvlcPart) (line : BufferRead LinkError α) (body : Octets) :
    Guarded LinkError (List α) :=
  if body.length % 10 = 0 then decode (lines line body.length) body else throw (invalid part)

/-- Reads the body of a frame. -/
def bvlcBody (function : BvlcFunction) (body : Octets) : Guarded LinkError BvlcMessage :=
  match function with
  | .result =>
    if body.length = 2 then decode (do pure (.result ⟨← word (invalid .result)⟩)) body
    else throw (invalid .result)
  | .writeBroadcastDistributionTable =>
    .writeBroadcastDistributionTable <$> table .broadcastTable broadcastEntry body
  | .readBroadcastDistributionTable => pure .readBroadcastDistributionTable
  | .readBroadcastDistributionTableAck =>
    .readBroadcastDistributionTableAck <$> table .broadcastTable broadcastEntry body
  | .forwardedNpdu => do
    let origin ← decode (socketAddress .forwardedNpdu) body
    pure (.forwardedNpdu origin (← Guarded.sliceFrom body 6))
  | .registerForeignDevice =>
    if body.length = 2 then
      decode (do pure (.registerForeignDevice (← word (invalid .registerForeignDevice)))) body
    else throw (invalid .registerForeignDevice)
  | .readForeignDeviceTable => pure .readForeignDeviceTable
  | .readForeignDeviceTableAck =>
    .readForeignDeviceTableAck <$> table .foreignDeviceTable foreignEntry body
  | .deleteForeignDeviceTableEntry =>
    if body.length = 6 then
      decode (do pure (.deleteForeignDeviceTableEntry (← socketAddress .deleteForeignDevice))) body
    else throw (invalid .deleteForeignDevice)
  | .distributeBroadcastToNetwork => pure (.distributeBroadcastToNetwork body)
  | .originalUnicastNpdu => pure (.originalUnicastNpdu body)
  | .originalBroadcastNpdu => pure (.originalBroadcastNpdu body)
  | .secureBvll => pure (.secureBvll body)

theorem yields_bvlcHeader : Yields bvlcHeader BvlcHeader.decode := by
  refine ((mirrors_octet _).bind_yields fun type => .ite (type = BvlcHeader.typeOctet)
    (fun _ => (mirrors_octet _).bind_yields fun code =>
      (Guarded.Mirrors.lift (BvlcFunction.ofCode code)).bind_yields fun _ =>
        ((mirrors_word _).bind fun _ => .pure _).yields)
    fun _ => (Guarded.Mirrors.throw _).yields).congr fun data => ?_
  match data with
  | [] => rfl
  | type :: rest =>
    dsimp only [bind, Except.bind, BvlcHeader.decode]
    split
    · match rest with
      | [] => rfl
      | code :: rest =>
        dsimp only
        cases BvlcFunction.ofCode code with
        | error error => rfl
        | ok function =>
          match rest with
          | [] | [_] | _ :: _ :: _ => rfl
    · rfl

theorem mirrors_socketAddress (part : BvlcPart) : Mirrors (socketAddress part) fun
    | a :: b :: c :: d :: high :: low :: rest =>
      .ok (⟨a, b, c, d, Octets.word16 high low⟩, rest)
    | _ => .error (invalid part) := by
  refine ((mirrors_octets 6 _).bind fun _ => mirrors_orError _ _).congr fun data => ?_
  match data with
  | a :: b :: c :: d :: high :: low :: rest =>
    rw [show Octets.take? 6 (a :: b :: c :: d :: high :: low :: rest) =
      some [a, b, c, d, high, low] from Octets.take?_append [a, b, c, d, high, low] rest]
    rfl
  | [] | [_] | [_, _] | [_, _, _] | [_, _, _, _] | [_, _, _, _, _] => rfl

theorem mirrors_mask (part : BvlcPart) :
    Mirrors (spelled 4 (invalid part) fun mask => do
      pure (Octets.word32 (← Guarded.octet mask 0) (← Guarded.octet mask 1)
        (← Guarded.octet mask 2) (← Guarded.octet mask 3))) fun
    | a :: b :: c :: d :: rest => .ok (Octets.word32 a b c d, rest)
    | _ => .error (invalid part) := by
  have spells (octets : Octets) (four : octets.length = 4) :
      (do pure (Octets.word32 (← Guarded.octet octets 0) (← Guarded.octet octets 1)
        (← Guarded.octet octets 2) (← Guarded.octet octets 3)) : Guarded LinkError UInt32) =
        pure (UInt32.ofNat (Octets.ofBigEndian octets)) := by
    obtain ⟨a, b, c, d, rfl⟩ := Octets.exists_of_length_four four
    rfl
  refine (mirrors_spelled spells _).congr fun data => ?_
  match data with
  | a :: b :: c :: d :: rest =>
    rw [show Octets.take? 4 (a :: b :: c :: d :: rest) = some [a, b, c, d] from
      Octets.take?_append [a, b, c, d] rest]
    rfl
  | [] | [_] | [_, _] | [_, _, _] => rfl

/-- A table is read line by line, each of ten octets; no octets may be left. -/
structure ReadsLines (plain : Octets → Except LinkError (α × Octets))
    (table? : Octets → Option (List α)) : Prop where
  empty : table? [] = some []
  short : ∀ data : Octets, data ≠ [] → data.length < 10 → table? data = none
  each : ∀ front rest : Octets, front.length = 10 → ∃ value,
    plain (front ++ rest) = .ok (value, rest) ∧
      table? (front ++ rest) = (value :: ·) <$> table? rest

variable {line : BufferRead LinkError α} {plain : Octets → Except LinkError (α × Octets)}
  {table? : Octets → Option (List α)}

theorem ReadsLines.eq_none (reads : ReadsLines plain table?) (data : Octets)
    (broken : data.length % 10 ≠ 0) : table? data = none := by
  by_cases more : 10 ≤ data.length
  · obtain ⟨value, -, grows⟩ := reads.each (data.take 10) (data.drop 10)
      (List.length_take_of_le more)
    rw [List.take_append_drop] at grows
    rw [grows, reads.eq_none (data.drop 10) (by rw [List.length_drop]; omega)]
    rfl
  · exact reads.short data (fun none => broken (by rw [none]; rfl)) (Nat.lt_of_not_le more)
termination_by data.length
decreasing_by
  rw [List.length_drop]
  omega

theorem ReadsLines.run_lines (reads : ReadsLines plain table?) (mirrors : Mirrors line plain)
    (fuel : Nat) (buffer : IndexedBuffer) (within : buffer.Within)
    (enough : buffer.remaining.length ≤ fuel) (whole : buffer.remaining.length % 10 = 0) :
    ∃ entries, table? buffer.remaining = some entries ∧
      Prod.fst <$> (lines line fuel).run buffer = pure entries := by
  induction fuel generalizing buffer with
  | zero =>
    rw [List.eq_nil_of_length_eq_zero (Nat.le_zero.mp enough)]
    exact ⟨[], reads.empty, rfl⟩
  | succ fuel ih =>
    have unfolded : (lines line (fuel + 1)).run buffer =
        if buffer.hasRemaining 10 then
          (do let first ← line; (first :: ·) <$> lines line fuel : BufferRead _ _).run buffer
        else pure ([], buffer) := by
      simp only [lines, StateT.run_bind, StateT.run_get, pure_bind]
      split <;> rfl
    rw [unfolded, IndexedBuffer.hasRemaining_eq]
    by_cases more : 10 ≤ buffer.remaining.length
    · obtain ⟨value, first, grows⟩ := reads.each (buffer.remaining.take 10)
        (buffer.remaining.drop 10) (List.length_take_of_le more)
      rw [List.take_append_drop] at first grows
      have ends := mirrors buffer within
      rw [first] at ends
      obtain ⟨last, runs, seen, inside⟩ := ends
      have shorter : last.remaining.length = buffer.remaining.length - 10 := by
        rw [seen, List.length_drop]
      obtain ⟨entries, others, rest⟩ := ih last inside (by omega) (by omega)
      rw [if_pos (decide_eq_true more), grows, ← seen, others, StateT.run_bind, runs, pure_bind,
        StateT.run_map, Functor.map_map]
      refine ⟨value :: entries, rfl, ?_⟩
      rw [← map_pure (value :: ·) entries, ← rest, Functor.map_map]
    · have none : buffer.remaining = [] := List.eq_nil_of_length_eq_zero (by omega)
      rw [if_neg (by rw [decide_eq_true_eq]; exact more), none]
      exact ⟨[], reads.empty, rfl⟩

theorem ReadsLines.table_eq (reads : ReadsLines plain table?) (mirrors : Mirrors line plain)
    (part : BvlcPart) {body : Octets} (fits : body.length ≤ maxCount) :
    table part line body = orError (invalid part) (table? body) := by
  unfold table
  split
  · next whole =>
    obtain ⟨entries, found, runs⟩ := reads.run_lines mirrors body.length (.new body)
      (IndexedBuffer.within_new fits) (Nat.le_refl _) whole
    rw [show table? body = some entries from found]
    exact runs
  · next broken =>
    rw [reads.eq_none body broken]
    rfl

/-- The line of a broadcast distribution table at the head of the octets. -/
def broadcastLine : Octets → Except LinkError (BroadcastEntry × Octets)
  | a :: b :: c :: d :: high :: low :: m1 :: m2 :: m3 :: m4 :: rest =>
    .ok (⟨⟨a, b, c, d, Octets.word16 high low⟩, Octets.word32 m1 m2 m3 m4⟩, rest)
  | _ => .error (invalid .broadcastTable)

/-- The line of a foreign device table at the head of the octets. -/
def foreignLine : Octets → Except LinkError (ForeignEntry × Octets)
  | a :: b :: c :: d :: high :: low :: t1 :: t2 :: r1 :: r2 :: rest =>
    .ok (⟨⟨a, b, c, d, Octets.word16 high low⟩, Octets.word16 t1 t2, Octets.word16 r1 r2⟩, rest)
  | _ => .error (invalid .foreignDeviceTable)

theorem mirrors_broadcastEntry : Mirrors broadcastEntry broadcastLine := by
  refine ((mirrors_socketAddress _).bind fun _ => (mirrors_mask _).bind fun _ => .pure _).congr
    fun data => ?_
  match data with
  | [] | [_] | [_, _] | [_, _, _] | [_, _, _, _] | [_, _, _, _, _] | [_, _, _, _, _, _]
  | [_, _, _, _, _, _, _] | [_, _, _, _, _, _, _, _] | [_, _, _, _, _, _, _, _, _]
  | _ :: _ :: _ :: _ :: _ :: _ :: _ :: _ :: _ :: _ :: _ => rfl

theorem mirrors_foreignEntry : Mirrors foreignEntry foreignLine := by
  refine ((mirrors_socketAddress _).bind fun _ => (mirrors_word _).bind fun _ =>
    (mirrors_word _).bind fun _ => .pure _).congr fun data => ?_
  match data with
  | [] | [_] | [_, _] | [_, _, _] | [_, _, _, _] | [_, _, _, _, _] | [_, _, _, _, _, _]
  | [_, _, _, _, _, _, _] | [_, _, _, _, _, _, _, _] | [_, _, _, _, _, _, _, _, _]
  | _ :: _ :: _ :: _ :: _ :: _ :: _ :: _ :: _ :: _ :: _ => rfl

theorem readsLines_broadcast : ReadsLines broadcastLine BvlcMessage.decodeBroadcastEntries? where
  empty := rfl
  short data some few := by
    match data with
    | [] => exact absurd rfl some
    | [_] | [_, _] | [_, _, _] | [_, _, _, _] | [_, _, _, _, _] | [_, _, _, _, _, _]
    | [_, _, _, _, _, _, _] | [_, _, _, _, _, _, _, _] | [_, _, _, _, _, _, _, _, _] => rfl
    | _ :: _ :: _ :: _ :: _ :: _ :: _ :: _ :: _ :: _ :: _ =>
      simp only [List.length_cons] at few
      omega
  each front rest ten :=
    match front, ten with
    | [_, _, _, _, _, _, _, _, _, _], _ => ⟨_, rfl, rfl⟩

theorem readsLines_foreign : ReadsLines foreignLine BvlcMessage.decodeForeignEntries? where
  empty := rfl
  short data some few := by
    match data with
    | [] => exact absurd rfl some
    | [_] | [_, _] | [_, _, _] | [_, _, _, _] | [_, _, _, _, _] | [_, _, _, _, _, _]
    | [_, _, _, _, _, _, _] | [_, _, _, _, _, _, _, _] | [_, _, _, _, _, _, _, _, _] => rfl
    | _ :: _ :: _ :: _ :: _ :: _ :: _ :: _ :: _ :: _ :: _ =>
      simp only [List.length_cons] at few
      omega
  each front rest ten :=
    match front, ten with
    | [_, _, _, _, _, _, _, _, _, _], _ => ⟨_, rfl, rfl⟩

theorem orError_invalid (part : BvlcPart) (f : α → BvlcMessage) (found : Option α) :
    f <$> orError (invalid part) found = Guarded.of (f <$> BvlcMessage.orInvalid part found) := by
  cases found <;> rfl

theorem decode_word {body : Octets} (fits : body.length ≤ maxCount) (part : BvlcPart)
    (message : UInt16 → BvlcMessage) :
    (if body.length = 2 then decode (do pure (message (← word (invalid part)))) body
      else throw (invalid part)) =
      Guarded.of (match body with
        | [high, low] => .ok (message (Octets.word16 high low))
        | _ => .error (invalid part)) := by
  rw [decode_eq ((mirrors_word _).bind fun _ => .pure _).yields fits]
  match body with
  | [] | [_] | [_, _] => rfl
  | _ :: _ :: _ :: _ => exact if_neg (by simp)

theorem bvlcBody_eq (function : BvlcFunction) {body : Octets} (fits : body.length ≤ maxCount) :
    bvlcBody function body = Guarded.of (BvlcMessage.decodeBody function body) := by
  cases function with
  | result => exact decode_word fits .result fun word => .result ⟨word⟩
  | registerForeignDevice =>
    exact decode_word fits .registerForeignDevice .registerForeignDevice
  | writeBroadcastDistributionTable | readBroadcastDistributionTableAck =>
    unfold bvlcBody
    dsimp only
    rw [readsLines_broadcast.table_eq mirrors_broadcastEntry _ fits]
    exact orError_invalid _ _ _
  | readForeignDeviceTableAck =>
    unfold bvlcBody
    dsimp only
    rw [readsLines_foreign.table_eq mirrors_foreignEntry _ fits]
    exact orError_invalid _ _ _
  | forwardedNpdu =>
    unfold bvlcBody
    dsimp only
    rw [decode_eq (mirrors_socketAddress _).yields fits]
    match body with
    | [] | [_] | [_, _] | [_, _, _] | [_, _, _, _] | [_, _, _, _, _] => rfl
    | _ :: _ :: _ :: _ :: _ :: _ :: npdu =>
      rw [Guarded.sliceFrom_of_le (by simp)]
      rfl
  | deleteForeignDeviceTableEntry =>
    unfold bvlcBody
    dsimp only
    rw [decode_eq ((mirrors_socketAddress _).bind fun _ => .pure _).yields fits]
    match body with
    | [] | [_] | [_, _] | [_, _, _] | [_, _, _, _] | [_, _, _, _, _] | [_, _, _, _, _, _] => rfl
    | _ :: _ :: _ :: _ :: _ :: _ :: _ :: _ => exact if_neg (by simp)
  | _ => rfl

/-! ## MS/TP -/

/-- What is said of a frame that is cut short. -/
def mstpCutShort : LinkError := .invalidFrame .mstpTruncated

/-- Reads `length` octets of data and their check. -/
def mstpData (length : Nat) : BufferRead LinkError Octets :=
  if length = 0 then pure []
  else do
    let data ← octets length mstpCutShort
    let received ← spelled 2 mstpCutShort fun check => do
      pure (Octets.word16 (← Guarded.octet check 1) (← Guarded.octet check 0))
    if received = dataCrc data then pure data else throw (.crcError (dataCrc data) received)

/-- Checks that everything has been read. -/
def mstpEnd : BufferRead LinkError Unit := do
  let buffer ← get
  if buffer.hasRemaining 1 then
    throw (.invalidFrame (.mstpTrailing (buffer.data.length - buffer.position)))
  else pure ()

/-- Reads what is behind the head of a frame. -/
def mstpBehindHead (head : Octets) : BufferRead LinkError MstpFrame := do
  let received ← octet mstpCutShort
  let calculated := headerCrc head
  if received ≠ calculated then throw (.crcError calculated.toUInt16 received.toUInt16)
  else
    let frameType ← StateT.lift (do Guarded.of (MstpFrameType.ofCode (← Guarded.octet head 0)))
    let length ← StateT.lift (do
      pure (Octets.word16 (← Guarded.octet head 3) (← Guarded.octet head 4)).toNat)
    if MstpFrame.maxDataLength < length then throw (.frameTooLarge length)
    else
      let data ← mstpData length
      mstpEnd
      StateT.lift (do pure ⟨frameType, ← Guarded.octet head 1, ← Guarded.octet head 2, data⟩)

/-- Reads a frame. -/
def mstpFrame : BufferRead LinkError MstpFrame := do
  let preamble ← octets? 2
  if preamble = some [0x55, 0xFF] then
    let head ← octets 5 mstpCutShort
    mstpBehindHead head
  else throw (.invalidFrame .mstpPreamble)

theorem mirrors_mstpData (length : Nat) :
    Mirrors (mstpData length) (MstpFrame.decodeData length) := by
  have spells (octets : Octets) (two : octets.length = 2) :
      (do pure (Octets.word16 (← Guarded.octet octets 1) (← Guarded.octet octets 0)) :
        Guarded LinkError UInt16) = pure (UInt16.ofNat (Octets.ofBigEndian octets.reverse)) := by
    obtain ⟨low, high, rfl⟩ := Octets.exists_of_length_two two
    rfl
  refine Guarded.Mirrors.ite (length = 0) (fun _ => .pure []) fun _ => ?_
  refine ((mirrors_octets length _).bind fun data => (mirrors_spelled spells _).bind fun received =>
    .ite (received = dataCrc data) (fun _ => .pure data) fun _ => .throw _).congr fun seen => ?_
  dsimp only [bind, Except.bind]
  cases Octets.take? length seen with
  | none => rfl
  | some data =>
    match seen.drop length with
    | [] | [_] => rfl
    | low :: high :: behind =>
      dsimp only
      rw [show Octets.take? 2 (low :: high :: behind) = some [low, high] from
        Octets.take?_append [low, high] behind]
      rfl

theorem mirrors_mstpEnd : Mirrors mstpEnd fun data =>
    if data.isEmpty then .ok ((), data)
    else .error (.invalidFrame (.mstpTrailing data.length)) := by
  intro buffer within
  have unfolded : mstpEnd.run buffer =
      if buffer.hasRemaining 1 then
        throw (.invalidFrame (.mstpTrailing (buffer.data.length - buffer.position)))
      else pure ((), buffer) := by
    simp only [mstpEnd, StateT.run_bind, StateT.run_get, pure_bind]
    split <;> rfl
  rw [unfolded, IndexedBuffer.hasRemaining_eq, ← IndexedBuffer.length_remaining]
  dsimp only
  cases remains : buffer.remaining with
  | nil => exact ⟨buffer, rfl, remains, within⟩
  | cons first others =>
    have some : 1 ≤ (first :: others).length := Nat.le_add_left 1 others.length
    rw [if_pos (decide_eq_true some)]
    rfl

theorem mstpBehindHead_of_five (type destination source high low : UInt8) :
    mstpBehindHead [type, destination, source, high, low] = (do
      let received ← octet mstpCutShort
      let calculated := headerCrc [type, destination, source, high, low]
      if received ≠ calculated then throw (.crcError calculated.toUInt16 received.toUInt16)
      else
        let frameType ← StateT.lift (Guarded.of (MstpFrameType.ofCode type))
        let length := (Octets.word16 high low).toNat
        if MstpFrame.maxDataLength < length then throw (.frameTooLarge length)
        else
          let data ← mstpData length
          mstpEnd
          pure ⟨frameType, destination, source, data⟩) := rfl

theorem yields_mstpBehindHead (type destination source high low : UInt8) :
    Yields (mstpBehindHead [type, destination, source, high, low]) fun data =>
      MstpFrame.decodeFrame (type :: destination :: source :: high :: low :: data) := by
  rw [mstpBehindHead_of_five]
  refine ((mirrors_octet _).bind_yields fun received =>
    .ite (received ≠ headerCrc [type, destination, source, high, low])
      (fun _ => (Guarded.Mirrors.throw _).yields) fun _ =>
        (Guarded.Mirrors.lift (MstpFrameType.ofCode type)).bind_yields fun frameType =>
          .ite (MstpFrame.maxDataLength < (Octets.word16 high low).toNat)
            (fun _ => (Guarded.Mirrors.throw _).yields) fun _ =>
              ((mirrors_mstpData _).bind fun _ =>
                mirrors_mstpEnd.bind fun _ => .pure _).yields).congr
    fun data => ?_
  match data with
  | [] => rfl
  | check :: rest =>
    dsimp only [bind, Except.bind, MstpFrame.decodeFrame]
    split
    · rfl
    · cases MstpFrameType.ofCode type with
      | error error => rfl
      | ok frameType =>
        dsimp only [Except.map]
        split
        · rfl
        · cases MstpFrame.decodeData (Octets.word16 high low).toNat rest with
          | error error => rfl
          | ok pair =>
            obtain ⟨data, behind⟩ := pair
            cases behind <;> rfl

theorem decodeFrame_of_head (data : Octets) :
    ((match Octets.take? 5 data with
      | some head => .ok (head, data.drop 5)
      | none => .error mstpCutShort : Except LinkError (Octets × Octets)) >>=
        fun (head, rest) => MstpFrame.decodeFrame (head ++ rest)) =
      MstpFrame.decodeFrame data := by
  rw [Octets.take?]
  by_cases enough : 5 ≤ data.length
  · rw [if_pos enough]
    show MstpFrame.decodeFrame (data.take 5 ++ data.drop 5) = _
    rw [List.take_append_drop]
  · rw [if_neg enough]
    rcases data with _ | ⟨_, _ | ⟨_, _ | ⟨_, _ | ⟨_, _ | ⟨_, rest⟩⟩⟩⟩⟩
    iterate 5 rfl
    exact absurd (Nat.le_add_left 5 rest.length) enough

theorem yields_mstpFrame : Yields mstpFrame MstpFrame.decode := by
  have behind (data head rest : Octets) (there : (match Octets.take? 5 data with
      | some octets => .ok (octets, data.drop 5)
      | none => .error mstpCutShort) = Except.ok (head, rest)) :
      Yields (mstpBehindHead head) fun rest => MstpFrame.decodeFrame (head ++ rest) := by
    cases takes : Octets.take? 5 data with
    | none =>
      rw [takes] at there
      cases there
    | some octets =>
      rw [takes] at there
      cases there
      obtain ⟨type, destination, source, high, low, rfl⟩ :=
        Octets.exists_of_length_five (Octets.length_of_take? takes)
      exact yields_mstpBehindHead type destination source high low
  refine ((mirrors_octets? 2).bind_yields fun preamble => .ite (preamble = some [0x55, 0xFF])
    (fun _ => (mirrors_octets 5 _).bind_yields_of behind)
    fun _ => (Guarded.Mirrors.throw _).yields).congr fun data => ?_
  rw [MstpFrame.decode]
  by_cases two : 2 ≤ data.length
  · rw [Octets.take?, if_pos two]
    show (if some (data.take 2) = some [0x55, 0xFF] then _ else _) = _
    by_cases preamble : data.take 2 = [0x55, 0xFF]
    · rw [if_pos preamble, preamble, if_pos rfl]
      exact decodeFrame_of_head (data.drop 2)
    · rw [if_neg preamble, if_neg fun same => preamble (Option.some.inj same)]
      rfl
  · rw [Octets.take?, if_neg two, if_neg fun same => two ?_]
    · rfl
    · rw [← List.take_append_drop 2 data, same, List.length_append]
      exact Nat.le_add_right 2 _

end BufferRead

namespace Guarded

/-- Reads a BACnet/IP frame. -/
def decodeBvlc (data : Octets) : Guarded LinkError BvlcMessage := do
  let header ← BufferRead.decode BufferRead.bvlcHeader data
  if header.length.toNat = data.length then
    let body ← sliceFrom data 4
    BufferRead.bvlcBody header.function body
  else throw (.invalidFrame (.bvlcLength header.length data.length))

theorem decodeBvlc_eq {data : Octets} (fits : data.length ≤ maxCount) :
    decodeBvlc data = of (BvlcMessage.decode data) := by
  unfold decodeBvlc
  rw [BufferRead.decode_eq BufferRead.yields_bvlcHeader fits]
  show (of (BvlcHeader.decode data) >>= _) = of (BvlcHeader.decode data >>= _)
  cases reads : BvlcHeader.decode data with
  | error error => rfl
  | ok header =>
    have four := BvlcHeader.four_le_length_of_decode reads
    rw [of_ok, pure_bind]
    show _ = of (if header.length.toNat = data.length then _ else _)
    split
    · rw [sliceFrom_of_le four, pure_bind]
      exact BufferRead.bvlcBody_eq header.function (by rw [List.length_drop]; omega)
    · rfl

/-- Reads an MS/TP frame. -/
def decodeMstp (data : Octets) : Guarded LinkError MstpFrame :=
  BufferRead.decode BufferRead.mstpFrame data

theorem decodeMstp_eq {data : Octets} (fits : data.length ≤ maxCount) :
    decodeMstp data = of (MstpFrame.decode data) :=
  BufferRead.decode_eq BufferRead.yields_mstpFrame fits

end Guarded

end BACnet
