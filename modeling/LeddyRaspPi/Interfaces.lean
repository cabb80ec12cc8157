import Mathlib.Tactic.Common
import Mathlib.Algebra.Group.Int.Defs
import Mathlib.Algebra.Group.Nat.Defs

/-!
# The shared libraries of the agent

`leddy_interfaces`, `leddy_lib` and `serde_json` are not part of the repository. Their data types
that the agent builds or takes apart are restated here with the fields it uses; what the agent only
passes on is a type of the structure `Leddy`, and what it calls is a function of it. A result about
the agent is about every `Leddy`; what it needs of the libraries it assumes by name.
-/

namespace LeddyRaspPi

/-- `io::ErrorKind`, as far as the agent sets or reads it. -/
inductive ErrorKind where
  | invalidInput
  | invalidData
  | notFound
  | brokenPipe
  | other
  deriving DecidableEq

/-- `io::Error`: its kind and its text. -/
structure IoError where
  kind : ErrorKind
  message : String
  deriving DecidableEq

/-- `leddy_interfaces::PixelOrigin`. -/
inductive PixelOrigin where
  | topLeft
  | topRight
  | bottomLeft
  | bottomRight
  deriving DecidableEq

/-- `leddy_interfaces::SafetyLimits`. -/
structure SafetyLimits where
  minimumSupplyMillivolts : Option UInt32
  maximumCurrentMilliamps : Option UInt32
  maximumTemperatureMillicelsius : Option Int
  failSafeBrightness : UInt8
  communicationTimeoutMs : UInt64
  telemetryIntervalMs : UInt64
  faultHistoryCapacity : Nat
  deriving DecidableEq

/-- `leddy_interfaces::DisplayConfig`. -/
structure DisplayConfig where
  width : UInt16
  height : UInt16
  brightness : UInt8
  serpentine : Bool
  origin : PixelOrigin
  safetyLimits : Option SafetyLimits
  deriving DecidableEq

/-- `leddy_interfaces::DeviceCommand`, over the types of its payloads. The firmware payloads are
read by nothing. -/
inductive DeviceCommand (Message Authorization Nonce : Type) where
  | show (message : Message)
  | clear
  | configure (next : DisplayConfig)
  | ping (nonce : Nonce)
  | resetSafetyFault (authorization : Authorization)
  | stageFirmware
  | activateStagedFirmware

/-- `leddy_interfaces::DevicePlatform`, its one member the agent names. -/
inductive DevicePlatform where
  | raspberryPi
  deriving DecidableEq

/-- `leddy_interfaces::DeviceTransport`, the members the agent names. -/
inductive DeviceTransport where
  | wifi
  | ethernet
  deriving DecidableEq

/-- `leddy_interfaces::DeviceCapabilities`. The sensor and firmware capabilities are always the
default of their type. -/
structure DeviceCapabilities where
  maxWidth : UInt16
  maxHeight : UInt16
  colorDepthBits : UInt8
  supportsBrightness : Bool
  platform : Option DevicePlatform
  transports : List DeviceTransport
  supportsLatchedFaults : Bool
  deriving DecidableEq

/-- `leddy_interfaces::DeviceTelemetry`. The fields the agent always sends as `None` are left
out. -/
structure DeviceTelemetry (Fault FaultRecord : Type) where
  deviceId : String
  uptimeSeconds : UInt64
  freeMemoryBytes : UInt64
  brightnessLimit : Option UInt8
  faultLatched : Bool
  activeFaults : List Fault
  recentFaults : List FaultRecord
  currentMessageId : Option String

/-- `leddy_interfaces::DeviceEvent`, the members the agent sends. -/
inductive DeviceEvent (Nonce Fault FaultRecord : Type) where
  | hello (deviceId : String) (firmwareVersion : String) (capabilities : DeviceCapabilities)
  | ack (commandId : String)
  | pong (nonce : Nonce)
  | error (code : String) (message : String)
  | telemetry (telemetry : DeviceTelemetry Fault FaultRecord)

/-- `leddy_lib::SafetyObservation`. -/
structure SafetyObservation where
  observedAtUnixMs : UInt64
  lastAuthenticatedCommandUnixMs : UInt64
  supplyMillivolts : Option UInt32
  currentMilliamps : Option UInt32
  temperatureMillicelsius : Option Int
  deriving DecidableEq

/-- What `SafetyController::observe` and `SafetyController::decision` return. -/
structure SafetyDecision (Fault : Type) where
  brightnessLimit : UInt8
  faultLatched : Bool
  activeFaults : List Fault

/-- The shared libraries: the types the agent handles without looking inside, the constants and the
functions it calls. A call that changes its receiver returns the changed receiver. -/
structure Leddy where
  MessageEnvelope : Type
  SafetyResetAuthorization : Type
  Nonce : Type
  SafetyController : Type
  FrameBuffer : Type
  Fault : Type
  FaultRecord : Type
  recommendedMinWidth : UInt16
  recommendedMaxWidth : UInt16
  recommendedMinHeight : UInt16
  recommendedMaxHeight : UInt16
  /-- `DisplayConfig::validate`; the error is its text. -/
  validate : DisplayConfig → Except String Unit
  /-- `DisplayConfig::pixel_count`. -/
  pixelCount : DisplayConfig → Nat
  /-- `MessageEnvelope::validate`. -/
  validateMessage : MessageEnvelope → Except String Unit
  messageId : MessageEnvelope → String
  authorizationId : SafetyResetAuthorization → String
  /-- `SafetyController::new`. -/
  safetyNew : SafetyLimits → Except String SafetyController
  /-- `SafetyController::observe`. -/
  safetyObserve : SafetyController → SafetyObservation → SafetyDecision Fault × SafetyController
  /-- `SafetyController::decision`. -/
  safetyDecision : SafetyController → SafetyDecision Fault
  /-- `SafetyController::recent_faults`. -/
  safetyRecentFaults : SafetyController → List FaultRecord
  /-- `SafetyController::reset_authorized`. -/
  safetyResetAuthorized :
    SafetyController → SafetyResetAuthorization → UInt64 → Except String Unit × SafetyController
  renderMessageFrame :
    DisplayConfig → MessageEnvelope → UInt64 → Except String (Option FrameBuffer)
  /-- `FrameBuffer::row_major`. -/
  rowMajor : FrameBuffer → List UInt8
  /-- `FrameBuffer::device_order`. -/
  deviceOrder : FrameBuffer → List UInt8
  /-- `serde_json::to_vec_pretty` on a configuration. -/
  toVecPretty : DisplayConfig → Except String (List UInt8)
  /-- `serde_json::from_slice` for a configuration. -/
  fromSlice : List UInt8 → Except String DisplayConfig

namespace Leddy

/-- The commands of the protocol, with the payload types of the libraries. -/
abbrev Command (L : Leddy) : Type :=
  DeviceCommand L.MessageEnvelope L.SafetyResetAuthorization L.Nonce

/-- The events of the protocol, with the payload types of the libraries. -/
abbrev Event (L : Leddy) : Type := DeviceEvent L.Nonce L.Fault L.FaultRecord

/-- `DisplayConfig::pixel_count()` is the product of the two dimensions. -/
def CountsPixels (L : Leddy) : Prop :=
  ∀ config, L.pixelCount config = config.width.toNat * config.height.toNat

end Leddy

end LeddyRaspPi
