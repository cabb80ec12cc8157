import LeddyRaspPi.Agent.Restarts
import Mathlib.Data.List.TakeWhile

/-!
# Describing a configuration in the environment

Every configuration with the default limits can be written into the five variables of the display
(`describes_environment`), in more than one way: numbers with a plus sign or leading zeros, flags by
any of their names, origins with capitals and hyphens. However it is written, start-up without a file
selects just this configuration, or fails with what is wrong about it (`described_starts`).
-/

namespace LeddyRaspPi

variable {L : Leddy} {env : Environment} {config : DisplayConfig}

/-! ## Numbers -/

/-- The text of a number: digits, perhaps behind a plus sign. -/
inductive Numeral : List Char → Nat → Prop where
  | intro {sign digits : List Char} (hsign : sign = [] ∨ sign = ['+']) (hnonempty : digits ≠ [])
    (hdigits : ∀ c ∈ digits, c.isDigit = true) :
    Numeral (sign ++ digits) (Nat.ofDigitChars 10 digits 0)

/-- What `str::parse` makes of a text, by its sign and digits. -/
theorem Environment.parseUnsigned_eq {size : Nat} {value : String} {sign digits : List Char}
    (hvalue : value.toList = sign ++ digits)
    (hsign : sign = [] ∧ digits.head? ≠ some '+' ∨ sign = ['+']) :
    parseUnsigned size value =
      if digits ≠ [] ∧ digits.all Char.isDigit ∧ Nat.ofDigitChars 10 digits 0 < size then
        some (Nat.ofDigitChars 10 digits 0) else none := by
  rw [parseUnsigned, hvalue, Nat.ofDigitChars_eq_foldl]
  rcases hsign with ⟨rfl, hhead⟩ | rfl
  · cases digits with
    | nil => rfl
    | cons c rest =>
      have hplus : c ≠ '+' := fun h => hhead (congrArg some h)
      simp [hplus]
  · rfl

/-- `str::parse` reads the texts of the numbers that its type holds, and no other. -/
theorem Environment.parseUnsigned_eq_some_iff {size n : Nat} {value : String} :
    parseUnsigned size value = some n ↔ Numeral value.toList n ∧ n < size := by
  constructor
  · intro h
    obtain ⟨sign, digits, hvalue, hsign⟩ : ∃ sign digits, value.toList = sign ++ digits ∧
        (sign = [] ∧ digits.head? ≠ some '+' ∨ sign = ['+']) := by
      by_cases hplus : value.toList.head? = some '+'
      · obtain ⟨rest, hrest⟩ := List.head?_eq_some_iff.1 hplus
        exact ⟨['+'], rest, hrest, .inr rfl⟩
      · exact ⟨[], value.toList, rfl, .inl ⟨rfl, hplus⟩⟩
    rw [parseUnsigned_eq hvalue hsign] at h
    split at h
    · next hread =>
      cases h
      obtain ⟨hnonempty, hdigits, hsize⟩ := hread
      refine ⟨hvalue ▸ .intro (hsign.imp_left And.left) hnonempty ?_, hsize⟩
      exact fun c hc => List.all_eq_true.1 hdigits c hc
    · cases h
  · rintro ⟨hnumeral, hsize⟩
    generalize htext : value.toList = text at hnumeral
    obtain @⟨sign, digits, hsign, hnonempty, hdigits⟩ := hnumeral
    rw [parseUnsigned_eq htext (hsign.imp_left fun h => ⟨h, ?_⟩),
      if_pos ⟨hnonempty, List.all_eq_true.2 hdigits, hsize⟩]
    intro hplus
    exact absurd (hdigits '+' (List.mem_of_mem_head? hplus)) (by decide)

/-- The decimals of a number are a text of it. -/
theorem numeral_repr (n : Nat) : Numeral n.repr.toList n := by
  have hnumeral : Numeral ([] ++ Nat.toDigits 10 n) (Nat.ofDigitChars 10 (Nat.toDigits 10 n) 0) :=
    .intro (.inl rfl) Nat.toDigits_ne_nil fun c hc =>
      Nat.isDigit_of_mem_toDigits (by decide) (by decide) hc
  rwa [List.nil_append, Nat.ofDigitChars_ten_toDigits, ← Nat.toList_repr] at hnumeral

/-! ## The five variables -/

/-- The texts of a flag, up to capitals. -/
def flagNames (flag : Bool) : List String :=
  if flag then ["1", "true", "yes", "on"] else ["0", "false", "no", "off"]

/-- The text of an origin, up to capitals and hyphens. -/
def originName : PixelOrigin → String
  | .topLeft => "top_left"
  | .topRight => "top_right"
  | .bottomLeft => "bottom_left"
  | .bottomRight => "bottom_right"

/-- The variable is set to a text of the number. -/
def Environment.SetsNumber (env : Environment) (name : String) (n : Nat) : Prop :=
  ∃ text, env.var name = some text ∧ Numeral text.toList n

/-- The variables of the display describe the configuration. -/
structure Environment.Describes (env : Environment) (config : DisplayConfig) : Prop where
  width : env.SetsNumber "LEDDY_MATRIX_WIDTH" config.width.toNat
  height : env.SetsNumber "LEDDY_MATRIX_HEIGHT" config.height.toNat
  brightness : env.SetsNumber "LEDDY_BRIGHTNESS" config.brightness.toNat
  serpentine : ∃ text, env.var "LEDDY_SERPENTINE" = some text ∧
    Environment.toAsciiLowercase text ∈ flagNames config.serpentine
  origin : ∃ text, env.var "LEDDY_PIXEL_ORIGIN" = some text ∧
    Environment.underscored (Environment.toAsciiLowercase text) = originName config.origin

/-- An environment that describes the configuration and sets nothing else. -/
def DisplayConfig.environment (config : DisplayConfig) : Environment := fun name =>
  if name = "LEDDY_MATRIX_WIDTH" then some (.text config.width.toNat.repr)
  else if name = "LEDDY_MATRIX_HEIGHT" then some (.text config.height.toNat.repr)
  else if name = "LEDDY_BRIGHTNESS" then some (.text config.brightness.toNat.repr)
  else if name = "LEDDY_SERPENTINE" then some (.text (if config.serpentine then "true" else "false"))
  else if name = "LEDDY_PIXEL_ORIGIN" then some (.text (originName config.origin))
  else none

/-- The environment written down for a configuration describes it. -/
theorem describes_environment (config : DisplayConfig) : config.environment.Describes config where
  width := ⟨_, rfl, numeral_repr _⟩
  height := ⟨_, rfl, numeral_repr _⟩
  brightness := ⟨_, rfl, numeral_repr _⟩
  serpentine := by
    refine ⟨_, rfl, ?_⟩
    cases config.serpentine <;> decide
  origin := by
    refine ⟨_, rfl, ?_⟩
    cases config.origin <;> decide

/-! ## Reading them back -/

/-- A 16-bit variable that holds a numeral is read as its number, whatever the fallback. -/
theorem Environment.SetsNumber.u16 {name : String} {n fallback : UInt16}
    (h : env.SetsNumber name n.toNat) : env.u16 name fallback = n := by
  obtain ⟨text, htext, hnumeral⟩ := h
  rw [Environment.u16, htext, Option.bind_some,
    parseUnsigned_eq_some_iff.2 ⟨hnumeral, n.toNat_lt⟩, Option.map_some, Option.getD_some]
  exact UInt16.ofNat_toNat

/-- So is an 8-bit one. -/
theorem Environment.SetsNumber.u8 {name : String} {n fallback : UInt8}
    (h : env.SetsNumber name n.toNat) : env.u8 name fallback = n := by
  obtain ⟨text, htext, hnumeral⟩ := h
  rw [Environment.u8, htext, Option.bind_some,
    parseUnsigned_eq_some_iff.2 ⟨hnumeral, n.toNat_lt⟩, Option.map_some, Option.getD_some]
  exact UInt8.ofNat_toNat

/-- A variable that holds a name of a flag is read as that flag. -/
theorem Environment.bool_of_flag {name text : String} {flag fallback : Bool}
    (htext : env.var name = some text) (hflag : toAsciiLowercase text ∈ flagNames flag) :
    env.bool name fallback = flag := by
  rw [Environment.bool, htext, Option.map_some]
  generalize toAsciiLowercase text = value at hflag
  cases flag with
  | true =>
    have htrue : value ∈ ["1", "true", "yes", "on"] := hflag
    exact if_pos htrue
  | false =>
    have hfalse : value ∈ ["0", "false", "no", "off"] := hflag
    have hnot : value ∉ ["1", "true", "yes", "on"] := by
      simp only [List.mem_cons, List.not_mem_nil, or_false] at hfalse
      rcases hfalse with rfl | rfl | rfl | rfl <;> decide
    exact (if_neg hnot).trans (if_pos hfalse)

/-- A variable that holds the name of an origin is read as that origin. -/
theorem Environment.origin_of_name {name text : String} {origin fallback : PixelOrigin}
    (htext : env.var name = some text)
    (horigin : underscored (toAsciiLowercase text) = originName origin) :
    env.origin name fallback = .ok origin := by
  rw [Environment.origin, htext]
  simp only [Option.map_some, horigin]
  cases origin <;> rfl

/-- `config_from_env` checks the configuration that the variables describe. -/
theorem Environment.Describes.configFromEnv (h : env.Describes config)
    (hlimits : config.safetyLimits = some defaultSafetyLimits) :
    LeddyRaspPi.configFromEnv L env = (validateSupportedConfig L config).map fun _ => config := by
  obtain ⟨flag, hflag, hserpentine⟩ := h.serpentine
  obtain ⟨name, hname, horigin⟩ := h.origin
  have hread : (⟨config.width, config.height, config.brightness, config.serpentine, config.origin,
      some defaultSafetyLimits⟩ : DisplayConfig) = config := by rw [← hlimits]
  rw [LeddyRaspPi.configFromEnv, origin_of_name hname horigin, h.width.u16, h.height.u16,
    h.brightness.u8, bool_of_flag hflag hserpentine]
  simp only [Bind.bind, Except.bind, hread]
  cases validateSupportedConfig L config <;> rfl

/-- Every configuration with the default limits is described by some environment. In any environment
that describes it, and without a configuration file, start-up selects this configuration and fails
only where the sink cannot be made; or the configuration is not supported, and start-up fails with
what is wrong about it. -/
theorem described_starts (L : Leddy) (hlimits : config.safetyLimits = some defaultSafetyLimits) :
    (∃ env : Environment, env.Describes config) ∧
      ∀ (env : Environment) (fs : FileSystem), env.Describes config →
        fs (RuntimeSettings.fromEnv env).configPath = .absent →
        (Supported L config → Selects L env fs (.fromEnv env) config) ∧
          ∀ error, validateSupportedConfig L config = .error error → ∀ spawn,
            startUp L env fs spawn = .error error := by
  refine ⟨⟨_, describes_environment config⟩, fun env fs hdescribes habsent => ⟨?_, ?_⟩⟩
  · intro hsupported
    have hread := hdescribes.configFromEnv (L := L) hlimits
    rw [show validateSupportedConfig L config = .ok () from hsupported] at hread
    have hkeeps : Keeps L fs (RuntimeSettings.fromEnv env).configPath none := habsent
    exact hkeeps.selects hread
  · intro error herror spawn
    have hread := hdescribes.configFromEnv (L := L) hlimits
    rw [herror] at hread
    exact startUp_of_no_fallback hread

/-! ## With the reference instance -/

/-- The environment of the supported configuration describes it, and on an empty disk the agent
starts with it. -/
theorem described_starts_supported :
    (∃ env : Environment, env.Describes Reference.supportedConfig) ∧
      (Supported Leddy.reference Reference.supportedConfig →
        Selects Leddy.reference Reference.supportedConfig.environment (fun _ => .absent)
          (.fromEnv Reference.supportedConfig.environment) Reference.supportedConfig) ∧
      ∀ error, validateSupportedConfig Leddy.reference Reference.supportedConfig = .error error →
        ∀ spawn, startUp Leddy.reference Reference.supportedConfig.environment (fun _ => .absent)
          spawn = .error error := by
  obtain ⟨hdescribed, hstarts⟩ := @described_starts Reference.supportedConfig Leddy.reference rfl
  exact ⟨hdescribed, hstarts _ _ (describes_environment _) rfl⟩

end LeddyRaspPi
