import BACnet.Config.Basic

/-!
# Configuration documents

A configuration is stored as a document: a tree of records, lists and plain values. A field that is
missing takes its usual value, and fields of other names are left out. A record may also be given as
the list of its first fields.

* `Config.ofDocument?` reads a document; `Config.toDocument` writes all fields.
* `ofDocument?_toDocument`: what is written is read back.
-/

namespace BACnet

/-- A tree of plain data. -/
inductive Document where
  | null
  | bool (value : Bool)
  | number (value : Int)
  /-- A number that is not an integer. -/
  | fraction
  | text (value : String)
  | list (items : List Document)
  | record (fields : List (String × Document))

namespace Document

/-! ## Reading plain values -/

/-- A natural number below the bound. -/
def nat? (bound : Nat) : Document → Option Nat
  | number (.ofNat value) => if value < bound then some value else none
  | _ => none

def word8? (document : Document) : Option UInt8 := (document.nat? 0x100).map UInt8.ofNat

def word16? (document : Document) : Option UInt16 := (document.nat? 0x10000).map UInt16.ofNat

def word64? (document : Document) : Option UInt64 :=
  (document.nat? 0x10000000000000000).map UInt64.ofNat

def bool? : Document → Option Bool
  | bool value => some value
  | _ => none

def text? : Document → Option String
  | text value => some value
  | _ => none

/-- A list whose items are read one by one. -/
def list? {α : Type} (read : Document → Option α) : Document → Option (List α)
  | list items => items.mapM read
  | _ => none

/-- A value that may be left open. -/
def optional? {α : Type} (read : Document → Option α) : Document → Option (Option α)
  | null => some none
  | document => (read document).map some

/-- The value with a name: the name itself, or a record with the name and nothing else. -/
def choice? {α : Type} (names : List (String × α)) : Document → Option α
  | text name => names.lookup name
  | record [(name, null)] => names.lookup name
  | _ => none

/-- The fields of a record, which may be given as a list in the order of the names. -/
def fields? (names : List String) : Document → Option (List (String × Document))
  | record fields => some fields
  | list items => if items.length ≤ names.length then some (names.zip items) else none
  | _ => none

/-- The value of a field, or the usual value if it is missing. -/
def field? {α : Type} (fields : List (String × Document)) (name : String)
    (read : Document → Option α) (usual : α) : Option α :=
  match fields.lookup name with
  | none => some usual
  | some document => read document

/-! ## Writing plain values -/

def ofWord8 (word : UInt8) : Document := number word.toNat

def ofWord16 (word : UInt16) : Document := number word.toNat

def ofWord64 (word : UInt64) : Document := number word.toNat

/-- A value that may be left open. -/
def ofOption {α : Type} (write : α → Document) : Option α → Document
  | none => null
  | some value => write value

/-- The name of a value. -/
def ofChoice {α : Type} [DecidableEq α] (names : List (String × α)) (value : α) : Document :=
  match names.find? (·.2 = value) with
  | some (name, _) => text name
  | none => null

end Document

open Document

/-! ## Names -/

def maxApduNames : List (String × MaxApduSize) :=
  [("Up50", .up50), ("Up128", .up128), ("Up206", .up206), ("Up480", .up480), ("Up1024", .up1024),
    ("Up1476", .up1476)]

def maxSegmentsNames : List (String × MaxSegments) :=
  [("Unspecified", .unspecified), ("Two", .two), ("Four", .four), ("Eight", .eight),
    ("Sixteen", .sixteen), ("ThirtyTwo", .thirtyTwo), ("SixtyFour", .sixtyFour),
    ("GreaterThan64", .greaterThan64)]

def segmentationNames : List (String × Segmentation) :=
  [("Both", .both), ("Transmit", .transmit), ("Receive", .receive),
    ("NoSegmentation", .noSegmentation)]

/-! ## Links -/

namespace PortConfig

def fieldNames : List String := ["network", "mac"]

def ofDocument? (document : Document) : Option PortConfig := do
  let fields ← document.fields? fieldNames
  let network ← field? fields "network" (optional? word16?) none
  let mac ← field? fields "mac" (optional? (list? word8?)) none
  some ⟨network, mac⟩

def toDocument (port : PortConfig) : Document :=
  .record [("network", ofOption ofWord16 port.network),
    ("mac", ofOption (fun mac => .list (mac.map ofWord8)) port.mac)]

end PortConfig

/-! ## Routing -/

namespace RouterConfig

def fieldNames : List String :=
  ["pending_queue_limit", "resolution_timeout_ms", "route_stale_after_ms", "initial_hop_count",
    "send_reject_on_unreachable"]

def ofDocument? (document : Document) : Option RouterConfig := do
  let fields ← document.fields? fieldNames
  let pendingLimit ← field? fields "pending_queue_limit" word64? standard.pendingLimit
  let resolutionTimeout ←
    field? fields "resolution_timeout_ms" word64? standard.resolutionTimeout
  let staleAfter ← field? fields "route_stale_after_ms" word64? standard.staleAfter
  let initialHopCount ← field? fields "initial_hop_count" word8? standard.initialHopCount
  let sendReject ← field? fields "send_reject_on_unreachable" bool? standard.sendReject
  some ⟨pendingLimit, resolutionTimeout, staleAfter, initialHopCount, sendReject⟩

def toDocument (router : RouterConfig) : Document :=
  .record [("pending_queue_limit", ofWord64 router.pendingLimit),
    ("resolution_timeout_ms", ofWord64 router.resolutionTimeout),
    ("route_stale_after_ms", ofWord64 router.staleAfter),
    ("initial_hop_count", ofWord8 router.initialHopCount),
    ("send_reject_on_unreachable", .bool router.sendReject)]

end RouterConfig

/-! ## Devices -/

namespace Config

/-- Reads the configuration from the fields of its record. -/
def ofFields? (fields : List (String × Document)) : Option Config := do
  let ports ← field? fields "ports" (list? PortConfig.ofDocument?) standard.ports
  let apduTimeout ← field? fields "apdu_timeout_ms" word64? standard.apduTimeout
  let apduRetries ← field? fields "apdu_retries" word8? standard.apduRetries
  let segmentTimeout ← field? fields "segment_timeout_ms" word64? standard.segmentTimeout
  let applicationTimeout ←
    field? fields "application_timeout_ms" word64? standard.applicationTimeout
  let proposedWindow ← field? fields "proposed_window_size" word8? standard.proposedWindow
  let maxApdu ← field? fields "max_apdu_length_accepted" (choice? maxApduNames) standard.maxApdu
  let maxSegments ←
    field? fields "max_segments_accepted" (choice? maxSegmentsNames) standard.maxSegments
  let segmentation ←
    field? fields "segmentation_supported" (choice? segmentationNames) standard.segmentation
  let invokeIdStart ← field? fields "invoke_id_start" word8? standard.invokeIdStart
  let password ← field? fields "dcc_password" (optional? text?) standard.password
  let router ← field? fields "router" RouterConfig.ofDocument? standard.router
  some {
    ports, apduTimeout, apduRetries, segmentTimeout, applicationTimeout, proposedWindow, maxApdu,
    maxSegments, segmentation, invokeIdStart, password, router }

/-- Reads a configuration from a document, which must be a record. -/
def ofDocument? : Document → Option Config
  | .record fields => ofFields? fields
  | _ => none

/-- Writes a configuration with all its fields. -/
def toDocument (config : Config) : Document :=
  .record [("ports", .list (config.ports.map PortConfig.toDocument)),
    ("apdu_timeout_ms", ofWord64 config.apduTimeout),
    ("apdu_retries", ofWord8 config.apduRetries),
    ("segment_timeout_ms", ofWord64 config.segmentTimeout),
    ("application_timeout_ms", ofWord64 config.applicationTimeout),
    ("proposed_window_size", ofWord8 config.proposedWindow),
    ("max_apdu_length_accepted", ofChoice maxApduNames config.maxApdu),
    ("max_segments_accepted", ofChoice maxSegmentsNames config.maxSegments),
    ("segmentation_supported", ofChoice segmentationNames config.segmentation),
    ("invoke_id_start", ofWord8 config.invokeIdStart),
    ("dcc_password", ofOption .text config.password),
    ("router", config.router.toDocument)]

end Config

/-! ## What is written is read back -/

theorem word8?_ofWord8 (word : UInt8) : word8? (ofWord8 word) = some word := by
  have := word.toNat_lt
  simp [word8?, ofWord8, nat?, this]

theorem word16?_ofWord16 (word : UInt16) : word16? (ofWord16 word) = some word := by
  have := word.toNat_lt
  simp [word16?, ofWord16, nat?, this]

theorem word64?_ofWord64 (word : UInt64) : word64? (ofWord64 word) = some word := by
  have := word.toNat_lt
  simp [word64?, ofWord64, nat?, this]

theorem list?_map {α : Type} {read : Document → Option α} {write : α → Document}
    (inverse : ∀ value, read (write value) = some value) (values : List α) :
    list? read (.list (values.map write)) = some values := by
  induction values with
  | nil => rfl
  | cons first rest ih =>
    simp only [list?, List.map_cons, List.mapM_cons] at ih ⊢
    simp [inverse, ih]

theorem optional?_word16 (word : Option UInt16) :
    optional? word16? (ofOption ofWord16 word) = some word := by
  cases word with
  | none => rfl
  | some word => exact congrArg (Option.map some) (word16?_ofWord16 word)

theorem optional?_octets (octets : Option Octets) :
    optional? (list? word8?) (ofOption (fun octets => .list (octets.map ofWord8)) octets) =
      some octets := by
  cases octets with
  | none => rfl
  | some octets => exact congrArg (Option.map some) (list?_map word8?_ofWord8 octets)

theorem field?_self {α : Type} (fields : List (String × Document)) (name : String)
    (document : Document) (read : Document → Option α) (usual : α) :
    field? ((name, document) :: fields) name read usual = read document := by
  rw [field?, List.lookup_cons_self]

theorem field?_other {α : Type} {name other : String} (fields : List (String × Document))
    (document : Document) (read : Document → Option α) (usual : α) (distinct : name ≠ other) :
    field? ((other, document) :: fields) name read usual = field? fields name read usual := by
  rw [field?, List.lookup_cons, beq_false_of_ne distinct, field?]

theorem PortConfig.ofDocument?_toDocument (port : PortConfig) :
    PortConfig.ofDocument? port.toDocument = some port := by
  simp only [PortConfig.ofDocument?, PortConfig.toDocument, fields?, Option.bind_eq_bind,
    Option.bind_some, field?_self, field?_other, ne_eq, String.reduceEq, not_false_eq_true,
    optional?_word16, optional?_octets]

theorem RouterConfig.ofDocument?_toDocument (router : RouterConfig) :
    RouterConfig.ofDocument? router.toDocument = some router := by
  simp only [RouterConfig.ofDocument?, RouterConfig.toDocument, fields?, Option.bind_eq_bind,
    Option.bind_some, field?_self, field?_other, ne_eq, String.reduceEq, not_false_eq_true,
    word64?_ofWord64, word8?_ofWord8, bool?]

theorem maxApdu_choice (maxApdu : MaxApduSize) :
    choice? maxApduNames (ofChoice maxApduNames maxApdu) = some maxApdu := by
  cases maxApdu <;> rfl

theorem maxSegments_choice (maxSegments : MaxSegments) :
    choice? maxSegmentsNames (ofChoice maxSegmentsNames maxSegments) = some maxSegments := by
  cases maxSegments <;> rfl

theorem segmentation_choice (segmentation : Segmentation) :
    choice? segmentationNames (ofChoice segmentationNames segmentation) = some segmentation := by
  cases segmentation <;> rfl

theorem optional?_text (password : Option String) :
    optional? text? (ofOption .text password) = some password := by
  cases password <;> rfl

theorem Config.ofDocument?_toDocument (config : Config) :
    Config.ofDocument? config.toDocument = some config := by
  simp only [Config.ofDocument?, Config.toDocument, Config.ofFields?, Option.bind_eq_bind,
    Option.bind_some, field?_self, field?_other, ne_eq, String.reduceEq, not_false_eq_true,
    list?_map PortConfig.ofDocument?_toDocument, word64?_ofWord64, word8?_ofWord8,
    RouterConfig.ofDocument?_toDocument, maxApdu_choice, maxSegments_choice, segmentation_choice,
    optional?_text]

end BACnet
