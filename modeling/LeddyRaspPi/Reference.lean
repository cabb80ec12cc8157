import LeddyRaspPi.Config

/-!
# A reference instance of the shared libraries

`Leddy.reference` is a small executable stand-in for `leddy_interfaces`, `leddy_lib` and
`serde_json` that behaves as their documentation says on what it covers: the recommended geometry
limits, a controller that latches on a silent link and is reset by a valid authorisation, a renderer
that lights every pixel until a message has run out, and a codec that reads back what it wrote. The
results of the development hold for every `Leddy`; this one shows that their assumptions can be met,
and concrete runs are evaluated with it.
-/

namespace LeddyRaspPi

namespace Reference

/-- A message that lights every pixel with one value for a while. -/
structure Message where
  id : String
  pixel : UInt8
  durationMs : UInt64
  deriving DecidableEq

/-- An authorisation, with what checking it comes to. -/
structure Authorization where
  id : String
  valid : Bool
  deriving DecidableEq

/-- The one fault the stand-in knows. -/
inductive Fault where
  | communication
  deriving DecidableEq

/-- A controller: its limits and whether a fault is latched. -/
structure Controller where
  limits : SafetyLimits
  latched : Bool
  deriving DecidableEq

/-- The decision of a controller: dark while a fault is latched, unlimited otherwise. -/
def Controller.decision (controller : Controller) : SafetyDecision Fault :=
  if controller.latched then ⟨controller.limits.failSafeBrightness, true, [.communication]⟩
  else ⟨255, false, []⟩

/-- Latches when the last command is too long ago. -/
def Controller.observe (controller : Controller) (observation : SafetyObservation) :
    SafetyDecision Fault × Controller :=
  let silent := observation.observedAtUnixMs.toNat -
    observation.lastAuthenticatedCommandUnixMs.toNat
  let next := if controller.limits.communicationTimeoutMs.toNat < silent then
    { controller with latched := true } else controller
  (next.decision, next)

/-- Unlatches for a valid authorisation, refuses any other. -/
def Controller.resetAuthorized (controller : Controller) (authorization : Authorization)
    (_nowUnixMs : UInt64) : Except String Unit × Controller :=
  if authorization.valid then (.ok (), { controller with latched := false })
  else (.error "authorization rejected", controller)

/-- A decision tells whether the controller is latched. -/
@[simp] theorem Controller.decision_faultLatched (controller : Controller) :
    controller.decision.faultLatched = controller.latched := by
  unfold decision
  cases h : controller.latched <;> simp

/-- An observation is answered by the decision of the new controller. -/
@[simp] theorem Controller.observe_decision (controller : Controller)
    (observation : SafetyObservation) :
    (controller.observe observation).1 = (controller.observe observation).2.decision := rfl

/-- No observation releases the latch. -/
theorem Controller.observe_latched {controller : Controller} (h : controller.latched = true)
    (observation : SafetyObservation) :
    (controller.observe observation).2.latched = true := by
  unfold observe
  simp only
  split
  · rfl
  · exact h

/-- A refused reset leaves the controller as it was. -/
theorem Controller.resetAuthorized_error {controller : Controller} {authorization : Authorization}
    (now : UInt64) {error : String}
    (h : (controller.resetAuthorized authorization now).1 = .error error) :
    (controller.resetAuthorized authorization now).2 = controller := by
  unfold resetAuthorized at h ⊢
  split
  · next hvalid => rw [if_pos hvalid] at h; cases h
  · rfl

/-- A frame: the configuration it was made for and its pixels row by row. -/
structure Frame where
  config : DisplayConfig
  pixels : List UInt8
  deriving DecidableEq

/-- The pixels along the LED chain. -/
def Frame.deviceOrder (frame : Frame) : List UInt8 :=
  let width := frame.config.width.toNat
  let height := frame.config.height.toNat
  let right := frame.config.origin = .topRight ∨ frame.config.origin = .bottomRight
  let bottom := frame.config.origin = .bottomLeft ∨ frame.config.origin = .bottomRight
  (List.range height).flatMap fun r =>
    let y := if bottom then height - 1 - r else r
    let row := (frame.pixels.drop (y * width)).take width
    if xor right (frame.config.serpentine && r % 2 == 1) then row.reverse else row

/-- The bytes of a configuration with the default limits. -/
def encode (config : DisplayConfig) : Except String (List UInt8) :=
  if config.safetyLimits = some defaultSafetyLimits then
    let origin : UInt8 := match config.origin with
      | .topLeft => 0
      | .topRight => 1
      | .bottomLeft => 2
      | .bottomRight => 3
    .ok [config.width.toUInt8, (config.width / 256).toUInt8, config.height.toUInt8,
      (config.height / 256).toUInt8, config.brightness, config.serpentine.toUInt8, origin]
  else .error "unsupported safety limits"

/-- Reads the bytes of a configuration. -/
def decode : List UInt8 → Except String DisplayConfig
  | [w, w', h, h', brightness, serpentine, origin] =>
    .ok { width := w.toUInt16 + 256 * w'.toUInt16
          height := h.toUInt16 + 256 * h'.toUInt16
          brightness
          serpentine := serpentine ≠ 0
          origin := if origin = 0 then .topLeft else if origin = 1 then .topRight
            else if origin = 2 then .bottomLeft else .bottomRight
          safetyLimits := some defaultSafetyLimits }
  | _ => .error "not a configuration"

/-- A 16-bit number is its two bytes, the lower one first. -/
theorem u16_split (n : UInt16) : n.toUInt8.toUInt16 + 256 * (n / 256).toUInt8.toUInt16 = n := by
  have hn := n.toNat_lt
  rw [← UInt16.toNat_inj]
  simp only [UInt16.toNat_add, UInt16.toNat_mul, UInt8.toNat_toUInt16, UInt16.toNat_toUInt8,
    UInt16.toNat_div, show UInt16.toNat 256 = 256 from rfl]
  omega

/-- What was encoded is decoded to the same configuration. -/
theorem decode_encode {config : DisplayConfig} {bytes : List UInt8}
    (h : encode config = .ok bytes) : decode bytes = .ok config := by
  obtain ⟨width, height, brightness, serpentine, origin, limits⟩ := config
  unfold encode at h
  split at h
  · next hlimits =>
    cases hlimits
    cases h
    simp only [decode, u16_split]
    cases serpentine <;> cases origin <;> rfl
  · cases h

end Reference

/-- The reference instance. -/
@[reducible] def Leddy.reference : Leddy where
  MessageEnvelope := Reference.Message
  SafetyResetAuthorization := Reference.Authorization
  Nonce := Nat
  SafetyController := Reference.Controller
  FrameBuffer := Reference.Frame
  Fault := Reference.Fault
  FaultRecord := Reference.Fault
  recommendedMinWidth := 100
  recommendedMaxWidth := 300
  recommendedMinHeight := 5
  recommendedMaxHeight := 20
  validate _ := .ok ()
  pixelCount config := config.width.toNat * config.height.toNat
  validateMessage _ := .ok ()
  messageId message := message.id
  authorizationId authorization := authorization.id
  safetyNew limits := .ok ⟨limits, false⟩
  safetyObserve := Reference.Controller.observe
  safetyDecision := Reference.Controller.decision
  safetyRecentFaults _ := []
  safetyResetAuthorized := Reference.Controller.resetAuthorized
  renderMessageFrame config message elapsedMs :=
    .ok (if elapsedMs < message.durationMs then
      some ⟨config, List.replicate (config.width.toNat * config.height.toNat) message.pixel⟩
    else none)
  rowMajor frame := frame.pixels
  deviceOrder := Reference.Frame.deviceOrder
  toVecPretty := Reference.encode
  fromSlice := Reference.decode

/-- `supported_config` of the tests. -/
def Reference.supportedConfig : DisplayConfig where
  width := 100
  height := 5
  brightness := 80
  serpentine := true
  origin := .topLeft
  safetyLimits := some defaultSafetyLimits

/-- The reference instance counts rows times columns. -/
theorem Leddy.reference_countsPixels : Leddy.reference.CountsPixels := fun _ => rfl

end LeddyRaspPi
