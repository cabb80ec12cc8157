import LeddyRaspPi.Files

/-!
# The display configuration on disk and in range

`validate_supported_config`, `load_config` and `persist_config` of `main.rs`. `persistConfig_ends`
is the one fact the rest of the development uses about persisting: a call that returns has put the
encoded configuration at the path, a call that fails has left the path as it was, and no call touches
anything but the path and the temporary file beside it.
-/

namespace LeddyRaspPi

open Fallible

/-- `default_safety_limits`. -/
def defaultSafetyLimits : SafetyLimits where
  minimumSupplyMillivolts := none
  maximumCurrentMilliamps := none
  maximumTemperatureMillicelsius := none
  failSafeBrightness := 0
  communicationTimeoutMs := 10000
  telemetryIntervalMs := 1000
  faultHistoryCapacity := 16

/-- `safety_limits`. -/
def safetyLimits (config : DisplayConfig) : SafetyLimits :=
  config.safetyLimits.getD defaultSafetyLimits

/-- `validate_supported_config`. -/
def validateSupportedConfig (L : Leddy) (config : DisplayConfig) : Except IoError Unit := do
  (L.validate config).mapError fun error => ⟨.invalidInput, error⟩
  if ¬(L.recommendedMinWidth ≤ config.width ∧ config.width ≤ L.recommendedMaxWidth) then
    throw ⟨.invalidInput, s!"matrix width {config.width} is outside supported range " ++
      s!"{L.recommendedMinWidth}..={L.recommendedMaxWidth}"⟩
  if ¬(L.recommendedMinHeight ≤ config.height ∧ config.height ≤ L.recommendedMaxHeight) then
    throw ⟨.invalidInput, s!"matrix height {config.height} is outside supported range " ++
      s!"{L.recommendedMinHeight}..={L.recommendedMaxHeight}"⟩

/-- A configuration the agent supports. -/
def Supported (L : Leddy) (config : DisplayConfig) : Prop :=
  validateSupportedConfig L config = .ok ()

instance (L : Leddy) (config : DisplayConfig) : Decidable (Supported L config) :=
  match h : validateSupportedConfig L config with
  | .ok () => isTrue h
  | .error _ => isFalse fun hs => by rw [Supported, h] at hs; cases hs

/-- `load_config`. -/
def loadConfig (L : Leddy) (fs : FileSystem) (path : Path) (fallback : DisplayConfig) :
    Except IoError DisplayConfig :=
  match fs.read path with
  | .ok bytes => do
    let config ← (L.fromSlice bytes).mapError fun error => ⟨.invalidData, error⟩
    validateSupportedConfig L config
    pure config
  | .error error => if error.kind = .notFound then .ok fallback else .error error

/-- The temporary file `persist_config` writes beside `path`. -/
def temporaryPath (path : Path) : Path :=
  let fileName := (path.fileName.bind OsStr.toStr).getD "display-config.json"
  path.withFileName s!".{fileName}.tmp"

/-- How the file-system calls of one `persist_config` go. -/
structure PersistOutcome where
  createDir : Except IoError Unit
  write : WriteOutcome
  rename : Except IoError Unit

/-- `persist_config`. -/
def persistConfig (L : Leddy) (path : Path) (config : DisplayConfig) (outcome : PersistOutcome) :
    EStateM IoError FileSystem Unit := do
  ofExcept (validateSupportedConfig L config)
  FileSystem.createParent path outcome.createDir
  let bytes ← ofExcept ((L.toVecPretty config).mapError fun error => ⟨.invalidData, error⟩)
  FileSystem.write (temporaryPath path) bytes outcome.write
  FileSystem.rename (temporaryPath path) path outcome.rename

/-! ## What a call does to the files -/

/-- The temporary file is another file: its name is the longer one. -/
theorem temporaryPath_ne (path : Path) : temporaryPath path ≠ path := by
  refine Path.withFileName_ne ?_
  cases hname : path.fileName with
  | none => simp
  | some name =>
    cases name with
    | raw bytes => simp
    | text s =>
      simp only [Option.bind_some, OsStr.toStr, Option.getD_some, ne_eq, Option.some.injEq,
        OsStr.text.injEq]
      intro heq
      have hlen := congrArg String.length heq
      simp only [String.length_append, toString] at hlen
      have hdot : ".".length = 1 := rfl
      omega

/-- What `persist_config` does: returning, it has validated the configuration and put its encoding
at the path; failing, it has changed nothing but the temporary file. -/
theorem persistConfig_ends (L : Leddy) (path : Path) (config : DisplayConfig)
    (outcome : PersistOutcome) (fs : FileSystem) :
    Ends (persistConfig L path config outcome) fs
      (fun _ fs' => Supported L config ∧
        (∃ bytes, L.toVecPretty config = .ok bytes ∧ fs' path = .file bytes) ∧
        ∀ p, p ≠ path → p ≠ temporaryPath path → fs' p = fs p)
      (fun _ fs' => ∀ p, p ≠ temporaryPath path → fs' p = fs p) := by
  have hne := temporaryPath_ne path
  rw [persistConfig, ends_bind, ends_ofExcept]
  refine ⟨fun _ hvalid => ?_, fun _ _ _ _ => rfl⟩
  rw [ends_bind]
  refine (FileSystem.createParent_ends path outcome.createDir fs).mono ?_ fun _ _ h _ _ => by rw [h]
  intro _ fs' h
  obtain rfl := h
  rw [ends_bind, ends_ofExcept]
  refine ⟨fun bytes hbytes => ?_, fun _ _ _ _ => rfl⟩
  have hencode : L.toVecPretty config = .ok bytes := by
    cases h : L.toVecPretty config <;> simp_all [Except.mapError]
  rw [ends_bind]
  refine (FileSystem.write_ends _ bytes outcome.write fs').mono ?_ fun _ _ h => h
  intro _ fs'' h
  obtain rfl := h
  refine (FileSystem.rename_ends _ path outcome.rename _).mono ?_ ?_
  · intro _ _ h
    obtain rfl := h
    refine ⟨hvalid, ⟨bytes, hencode, ?_⟩, fun p hp hp' => ?_⟩
    · rw [Function.update_of_ne hne.symm, Function.update_self, Function.update_self]
    · rw [Function.update_of_ne hp', Function.update_of_ne hp, Function.update_of_ne hp']
  · rintro _ _ rfl p hp
    exact Function.update_of_ne hp _ _

end LeddyRaspPi
