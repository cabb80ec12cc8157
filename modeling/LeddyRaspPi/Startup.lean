import LeddyRaspPi.Config

/-!
# The environment of the process

`RuntimeSettings::from_env` and `config_from_env` of `main.rs`, with the parsers of the single
variables. A malformed number or flag falls back; a malformed origin is an error.
-/

namespace LeddyRaspPi

/-- The environment variables of the process: what `env::var_os` returns for each name. -/
abbrev Environment := String → Option OsStr

namespace Environment

variable (env : Environment) (name : String)

/-- `env::var(name).ok()`: a value that is not UTF-8 counts as missing. -/
def var : Option String := (env name).bind OsStr.toStr

/-- `str::parse` for an unsigned integer type with `size` values. -/
def parseUnsigned (size : Nat) (value : String) : Option Nat :=
  let digits : List Char := match value.toList with
    | '+' :: rest => rest
    | all => all
  let number := digits.foldl (fun n c => 10 * n + (c.toNat - '0'.toNat)) 0
  if digits ≠ [] ∧ digits.all Char.isDigit ∧ number < size then some number else none

/-- `env_u64`. -/
def u64 (fallback : UInt64) : UInt64 :=
  (((env.var name).bind (parseUnsigned UInt64.size)).map .ofNat).getD fallback

/-- `env_u16`. -/
def u16 (fallback : UInt16) : UInt16 :=
  (((env.var name).bind (parseUnsigned UInt16.size)).map .ofNat).getD fallback

/-- `env_u8`. -/
def u8 (fallback : UInt8) : UInt8 :=
  (((env.var name).bind (parseUnsigned UInt8.size)).map .ofNat).getD fallback

/-- `str::to_ascii_lowercase`. -/
def toAsciiLowercase (value : String) : String := .ofList (value.toList.map Char.toLower)

/-- `env_bool`. -/
def bool (fallback : Bool) : Bool :=
  match (env.var name).map toAsciiLowercase with
  | some value =>
    if value ∈ ["1", "true", "yes", "on"] then true
    else if value ∈ ["0", "false", "no", "off"] then false
    else fallback
  | none => fallback

/-- `value.replace('-', "_")`. -/
def underscored (value : String) : String :=
  .ofList (value.toList.map fun c => if c = '-' then '_' else c)

/-- `env_origin`. -/
def origin (fallback : PixelOrigin) : Except IoError PixelOrigin :=
  match (env.var name).map toAsciiLowercase with
  | none => .ok fallback
  | some value =>
    if underscored value = "top_left" then .ok .topLeft
    else if underscored value = "top_right" then .ok .topRight
    else if underscored value = "bottom_left" then .ok .bottomLeft
    else if underscored value = "bottom_right" then .ok .bottomRight
    else .error ⟨.invalidInput, s!"unsupported pixel origin {value}"⟩

end Environment

/-- `config_from_env`. -/
def configFromEnv (L : Leddy) (env : Environment) : Except IoError DisplayConfig := do
  let origin ← env.origin "LEDDY_PIXEL_ORIGIN" .topLeft
  let config : DisplayConfig :=
    { width := env.u16 "LEDDY_MATRIX_WIDTH" 100
      height := env.u16 "LEDDY_MATRIX_HEIGHT" 10
      brightness := env.u8 "LEDDY_BRIGHTNESS" 96
      serpentine := env.bool "LEDDY_SERPENTINE" true
      origin
      safetyLimits := some defaultSafetyLimits }
  validateSupportedConfig L config
  pure config

/-! ## The settings -/

/-- The component a piece between two slashes stands for: an empty piece and a dot behind the start
of a path stand for none. -/
def Component.ofPiece (first : Bool) : OsStr → Option Component
  | .text "" => none
  | .text "." => if first then some .curDir else none
  | .text ".." => some .parentDir
  | piece => some (.normal piece)

/-- A piece of a path that as a whole is not UTF-8. -/
def OsStr.ofBytes (bytes : List UInt8) : OsStr :=
  match String.fromUTF8? ⟨bytes.toArray⟩ with
  | some s => .text s
  | none => .raw bytes

/-- `PathBuf::from`, as far as the components go: repeated slashes, one at the end, and dots behind the
start are dropped. -/
def Path.ofOsStr (value : OsStr) : Path :=
  let pieces : List OsStr := match value with
    | .text s => (s.toList.splitOn '/').map fun piece => .text (.ofList piece)
    | .raw bytes => (bytes.splitOn 47).map OsStr.ofBytes
  match pieces with
  | [] => ⟨[]⟩
  | [piece] => ⟨(Component.ofPiece true piece).toList⟩
  | piece :: rest =>
    -- Nothing stands before the first slash of an absolute path.
    let start := if piece = OsStr.text "" then [.rootDir] else (Component.ofPiece true piece).toList
    ⟨start ++ rest.filterMap (Component.ofPiece false)⟩

/-- `RuntimeSettings`, with durations in nanoseconds. -/
structure RuntimeSettings where
  deviceId : String
  wsUrl : String
  configPath : Path
  snapshotPath : Option Path
  hub75Helper : Option Path
  frameInterval : Nat
  telemetryInterval : Nat

/-- `RuntimeSettings::from_env`. -/
def RuntimeSettings.fromEnv (env : Environment) : RuntimeSettings where
  deviceId := (env.var "LEDDY_DEVICE_ID").getD "pi-development"
  wsUrl := (env.var "LEDDY_DEVICE_WS_URL").getD "ws://localhost:8080/v1/ws/devices"
  configPath := .ofOsStr ((env "LEDDY_CONFIG_PATH").getD
    (.text "/var/lib/leddy/display-config.json"))
  snapshotPath := (env "LEDDY_FRAME_SNAPSHOT").map .ofOsStr
  hub75Helper := (env "LEDDY_HUB75_HELPER").map .ofOsStr
  frameInterval := 1000000 * (max (env.u64 "LEDDY_FRAME_INTERVAL_MS" 50) 1).toNat
  telemetryInterval := 1000000000 * (max (env.u64 "LEDDY_TELEMETRY_INTERVAL_SECS" 5) 1).toNat

end LeddyRaspPi
