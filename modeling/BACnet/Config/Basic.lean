import BACnet.Apdu.Limits
import BACnet.Network.Address
import BACnet.Segment.Payload
import BACnet.Timer.Clock

/-!
# Configuration

How a device is set up: the links it is attached to, how long it waits and how often it tries, what
it accepts, and how it routes. `Config.validate` refuses set-ups that cannot work; a device is built
only from one that passes.
-/

namespace BACnet

/-- A link to which the device is attached. -/
structure PortConfig where
  /-- The number of the network, unless it is still to be learned. -/
  network : Option UInt16
  /-- The address of the device on the link, if it is known. -/
  mac : Option Octets
  deriving DecidableEq, Repr

/-- How the device routes. -/
structure RouterConfig where
  /-- How many messages wait for a route to one network. -/
  pendingLimit : UInt64
  /-- How long they wait, in milliseconds. -/
  resolutionTimeout : UInt64
  /-- The age at which a learned route needs to be confirmed, in milliseconds. -/
  staleAfter : UInt64
  /-- The hop count of messages that start here. -/
  initialHopCount : UInt8
  /-- Whether the sender is told of a message that cannot be delivered. -/
  sendReject : Bool
  deriving DecidableEq, Repr

/-- How a device is set up. Times are in milliseconds. -/
structure Config where
  /-- The links; the device itself lives on the first one. -/
  ports : List PortConfig
  apduTimeout : UInt64
  apduRetries : UInt8
  segmentTimeout : UInt64
  /-- How long the application may take to answer a request. -/
  applicationTimeout : UInt64
  proposedWindow : UInt8
  maxApdu : MaxApduSize
  maxSegments : MaxSegments
  segmentation : Segmentation
  /-- The first invoke ID. -/
  invokeIdStart : UInt8
  /-- The password of requests to fall silent, if they need one. -/
  password : Option String
  router : RouterConfig
  deriving DecidableEq, Repr

/-- Settings that may not be zero. -/
inductive PositiveSetting where
  | apduTimeout
  | segmentTimeout
  | applicationTimeout
  | resolutionTimeout
  | pendingLimit
  deriving DecidableEq, Repr

/-- The name of the setting in a configuration document. -/
def PositiveSetting.text : PositiveSetting → String
  | apduTimeout => "apdu_timeout_ms"
  | segmentTimeout => "segment_timeout_ms"
  | applicationTimeout => "application_timeout_ms"
  | resolutionTimeout => "router.resolution_timeout_ms"
  | pendingLimit => "router.pending_queue_limit"

/-- Why a set-up cannot work. -/
inductive ConfigError where
  | noPorts
  | duplicateNetwork (network : UInt16)
  | invalidNetworkNumber (network : UInt16)
  | invalidWindowSize (window : UInt8)
  | zeroValue (setting : PositiveSetting)
  deriving DecidableEq, Repr

namespace ConfigError

def kind (_ : ConfigError) : ErrorKind := .configuration

def message : ConfigError → String
  | noPorts => "at least one port must be configured"
  | duplicateNetwork network => s!"network {network} is configured on more than one port"
  | invalidNetworkNumber network =>
    s!"network number {network} cannot be assigned to a router port"
  | invalidWindowSize window => s!"window size {window} is outside 1..=127"
  | zeroValue setting => setting.text ++ " must be greater than zero"

end ConfigError

/-- A link of which nothing is known. -/
def PortConfig.unknown : PortConfig := ⟨none, none⟩

/-- The usual way to route. -/
def RouterConfig.standard : RouterConfig := ⟨16, 5000, 300000, 255, true⟩

namespace Config

/-- The usual set-up: one link, and no segments. -/
def standard : Config where
  ports := [.unknown]
  apduTimeout := 3000
  apduRetries := 3
  segmentTimeout := 1500
  applicationTimeout := 3000
  proposedWindow := 2
  maxApdu := .up1024
  maxSegments := .two
  segmentation := .noSegmentation
  invokeIdStart := 1
  password := none
  router := .standard

/-- Whether the device routes between links: it does if it has two or more. -/
def isRouter (config : Config) : Bool := 1 < config.ports.length

/-- How long to wait for an answer. -/
def answerSpan (config : Config) : Nat := nanosOfMillis config.apduTimeout.toNat

/-- How long to wait for a segment or its acknowledgment. -/
def segmentSpan (config : Config) : Nat := nanosOfMillis config.segmentTimeout.toNat

/-- How long to wait for the application. -/
def applicationSpan (config : Config) : Nat := nanosOfMillis config.applicationTimeout.toNat

/-- The network numbers that are set up, in the order of the links. -/
def networks (config : Config) : List UInt16 := config.ports.filterMap (·.network)

/-- Checks network numbers, given those that come before them. -/
def validateNetworks (isRouter : Bool) : List UInt16 → List UInt16 → Except ConfigError Unit
  | _, [] => .ok ()
  | seen, network :: rest =>
    if network = Address.globalNetwork ∨ (network = Address.localNetwork ∧ isRouter) then
      .error (.invalidNetworkNumber network)
    else if network ∈ seen then .error (.duplicateNetwork network)
    else validateNetworks isRouter (network :: seen) rest

/-- Checks the proposed window. -/
def validateWindow (window : UInt8) : Except ConfigError Unit :=
  if window = 0 ∨ maxWindow < window then .error (.invalidWindowSize window) else .ok ()

/-- The settings that may not be zero, with their values. -/
def positiveSettings (config : Config) : List (PositiveSetting × UInt64) :=
  [(.apduTimeout, config.apduTimeout), (.segmentTimeout, config.segmentTimeout),
    (.applicationTimeout, config.applicationTimeout),
    (.resolutionTimeout, config.router.resolutionTimeout),
    (.pendingLimit, config.router.pendingLimit)]

/-- Checks the settings that may not be zero. -/
def validatePositive (config : Config) : Except ConfigError Unit :=
  match config.positiveSettings.find? (·.2 = 0) with
  | some (setting, _) => .error (.zeroValue setting)
  | none => .ok ()

/-- Checks the set-up: the links first, then the window, then the other settings. -/
def validate (config : Config) : Except ConfigError Unit := do
  if config.ports.isEmpty then .error .noPorts
  validateNetworks config.isRouter [] config.networks
  validateWindow config.proposedWindow
  config.validatePositive

end Config

end BACnet
