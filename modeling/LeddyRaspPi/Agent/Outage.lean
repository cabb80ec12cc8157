import LeddyRaspPi.Agent.Persistence
import LeddyRaspPi.Lib.PowerCut

/-!
# Power cuts between two starts

`persist_config` replaces the file by writing another one and renaming it, and it syncs neither.
What a call has done to the files is its log (`persistConfig_log`); of the log a power cut may keep
the rename and lose the data. The file is a register all the same (`PowerCut.durable_register`), so
loading it at the next start finds what is left of the last call whose rename has survived, and that
is one of the configurations it should find exactly under the condition of `Outage.survives_iff`.
-/

namespace LeddyRaspPi

open Fallible PowerCut

variable {L : Leddy} {path : Path}

/-! ## A sequence of calls and a power cut -/

/-- A call of `persist_config`, how its file-system calls go, and what a later power cut makes of
it: what is left of the data it wrote, and whether its rename has survived. -/
structure PersistCall (L : Leddy) where
  config : DisplayConfig
  outcome : PersistOutcome
  left : List UInt8
  kept : Bool
  remains : ∀ bytes, L.toVecPretty config = .ok bytes → Remains 0 bytes left

namespace PersistCall

/-- Everything in front of the encoding succeeds. -/
def Prepared (path : Path) (call : PersistCall L) : Prop :=
  Supported L call.config ∧ (path.nonemptyParent = none ∨ call.outcome.createDir = .ok ())

instance (call : PersistCall L) : Decidable (call.Prepared path) :=
  inferInstanceAs (Decidable (_ ∧ _))

/-- The changes of files a call makes. -/
def log (path : Path) (call : PersistCall L) : List (Op Path Entry) :=
  if call.Prepared path then
    match L.toVecPretty call.config, call.outcome.write, call.outcome.rename with
    | .ok bytes, .complete, .ok () =>
      [.write (temporaryPath path) (.file bytes) (.file call.left),
        .rename (temporaryPath path) path call.kept]
    | .ok bytes, .complete, .error _ =>
      [.write (temporaryPath path) (.file bytes) (.file call.left)]
    | .ok bytes, .failed _ (some n), _ =>
      [.write (temporaryPath path) (.file (bytes.take n)) (.file (call.left.take n))]
    | _, _, _ => []
  else []

end PersistCall

/-- One call after the others: the files, and the configuration of the last call that returned. -/
def persistStep (L : Leddy) (path : Path) (s : FileSystem × Option DisplayConfig)
    (call : PersistCall L) : FileSystem × Option DisplayConfig :=
  match persistConfig L path call.config call.outcome s.1 with
  | .ok _ fs => (fs, some call.config)
  | .error _ fs => (fs, s.2)

/-- A power cut: behind some calls, and possibly in the middle of another one, of whose changes it
has made a few. -/
structure Outage (L : Leddy) where
  done : List (PersistCall L)
  current : Option (PersistCall L)
  made : Nat

namespace Outage

/-- The calls up to the cut, each with the changes it has made. -/
def calls (path : Path) (outage : Outage L) : List (PersistCall L × List (Op Path Entry)) :=
  outage.done.map (fun call => (call, call.log path)) ++
    outage.current.toList.map fun call => (call, (call.log path).take outage.made)

/-- The files after the cut. -/
def disk (path : Path) (fs : FileSystem) (outage : Outage L) : FileSystem :=
  durable .absent fs ((outage.calls path).flatMap Prod.snd)

/-- The configuration of the last call that had returned. -/
def lastCompleted (path : Path) (fs : FileSystem) (outage : Outage L) : Option DisplayConfig :=
  (Transition.run (persistStep L path) (fs, none) outage.done).2

/-- The last call whose rename has survived. -/
def survivor (path : Path) (outage : Outage L) : Option (PersistCall L) :=
  ((outage.calls path).filter fun c => c.1.kept && c.2.any Op.renames).getLast?.map Prod.fst

/-- The configurations that may be found after the cut: that of the last call that had returned, of
the one in progress, and the one found before. -/
def Allowed (path : Path) (fs : FileSystem) (before : DisplayConfig) (outage : Outage L)
    (config : DisplayConfig) : Prop :=
  outage.lastCompleted path fs = some config ∨
    (∃ call, outage.current = some call ∧ call.config = config) ∨ config = before

/-- The next start finds one of these. -/
def Survived (path : Path) (fs : FileSystem) (fallback before : DisplayConfig)
    (outage : Outage L) : Prop :=
  ∃ config, loadConfig L (outage.disk path fs) path fallback = .ok config ∧
    outage.Allowed path fs before config

end Outage

/-! ## The log of a call -/

section
variable {call : PersistCall L}

/-- A call that fails before the first write leaves nothing in the log. -/
theorem PersistCall.log_unprepared (h : ¬ call.Prepared path) : call.log path = [] := if_neg h

/-- Making room for the file succeeds if there is nothing to make or it can be made. -/
theorem createParent_prepared (path : Path) (outcome : Except IoError Unit) (fs : FileSystem) :
    Ends (FileSystem.createParent path outcome) fs
      (fun _ fs' => fs' = fs ∧ (path.nonemptyParent = none ∨ outcome = .ok ()))
      (fun _ fs' => fs' = fs ∧ ¬ (path.nonemptyParent = none ∨ outcome = .ok ())) := by
  unfold FileSystem.createParent
  cases hparent : path.nonemptyParent with
  | none => exact ⟨rfl, .inl rfl⟩
  | some parent =>
    simp only [FileSystem.createDirAll, ends_ofExcept]
    refine ⟨fun u hok => ⟨trivial, .inr hok⟩, fun error herror => ⟨trivial, fun h => ?_⟩⟩
    rcases h with h | h
    · cases h
    · rw [h] at herror
      cases herror

/-- The log of a call is what it does to the files, and a call that renames is one that returns. -/
theorem persistConfig_log (path : Path) (call : PersistCall L) (fs : FileSystem) :
    Ends (persistConfig L path call.config call.outcome) fs
      (fun _ fs' => fs' = live .absent fs (call.log path) ∧ (call.log path).any Op.renames = true)
      (fun _ fs' => fs' = live .absent fs (call.log path) ∧
        (call.log path).any Op.renames = false) := by
  rw [persistConfig, ends_bind, ends_ofExcept]
  refine ⟨fun _ hvalid => ?_, fun error hinvalid => ?_⟩
  · rw [ends_bind]
    refine (createParent_prepared path call.outcome.createDir fs).mono (fun _ fs' h => ?_)
      fun _ fs' h => ?_
    · obtain ⟨rfl, hparent⟩ := h
      have hprepared : call.Prepared path := ⟨hvalid, hparent⟩
      rw [ends_bind, ends_ofExcept_mapError, PersistCall.log, if_pos hprepared]
      refine ⟨fun bytes hbytes => ?_, fun error herror => ?_⟩
      · rw [hbytes, ends_bind]
        cases hwrite : call.outcome.write with
        | complete =>
          cases hrename : call.outcome.rename with
          | ok u => exact ⟨rfl, rfl⟩
          | error error => exact ⟨rfl, rfl⟩
        | failed error kept =>
          cases kept with
          | none => exact ⟨rfl, rfl⟩
          | some n => exact ⟨rfl, rfl⟩
      · rw [herror]
        exact ⟨rfl, rfl⟩
    · obtain ⟨rfl, hparent⟩ := h
      rw [PersistCall.log_unprepared fun h => hparent h.2]
      exact ⟨rfl, rfl⟩
  · have hunprepared : ¬ call.Prepared path := fun h => by
      have hvalid : validateSupportedConfig L call.config = .ok () := h.1
      rw [hinvalid] at hvalid
      cases hvalid
    rw [PersistCall.log_unprepared hunprepared]
    exact ⟨rfl, rfl⟩

/-- The logs of a sequence of calls are what the calls do to the files. -/
theorem persistStep_log (calls : List (PersistCall L)) (s : FileSystem × Option DisplayConfig) :
    (Transition.run (persistStep L path) s calls).1 =
      live .absent s.1 (calls.flatMap fun call => call.log path) := by
  induction calls generalizing s with
  | nil => rfl
  | cons call calls ih =>
    have hstep : (persistStep L path s call).1 = live .absent s.1 (call.log path) := by
      have hends := persistConfig_log path call s.1
      unfold Ends at hends
      unfold persistStep
      cases hrun : persistConfig L path call.config call.outcome s.1 with
      | ok u fs => rw [hrun] at hends; exact hends.1
      | error error fs => rw [hrun] at hends; exact hends.1
    rw [Transition.run_cons, ih, hstep, List.flatMap_cons, live_append]

/-- A call renames the file it has written as a whole, or does not rename. -/
theorem PersistCall.log_cases (path : Path) (call : PersistCall L) :
    call.log path = [] ∨
    (∃ content left, call.log path = [.write (temporaryPath path) content left]) ∨
    ∃ bytes, Supported L call.config ∧ L.toVecPretty call.config = .ok bytes ∧
      call.log path = [.write (temporaryPath path) (.file bytes) (.file call.left),
        .rename (temporaryPath path) path call.kept] := by
  by_cases hprepared : call.Prepared path
  · rw [log, if_pos hprepared]
    cases hbytes : L.toVecPretty call.config with
    | error error => exact .inl rfl
    | ok bytes =>
      rcases call.outcome.write with _ | ⟨error, _ | n⟩
      · cases call.outcome.rename with
        | ok u => exact .inr (.inr ⟨bytes, hprepared.1, rfl, rfl⟩)
        | error error => exact .inr (.inl ⟨_, _, rfl⟩)
      · exact .inl rfl
      · exact .inr (.inl ⟨_, _, rfl⟩)
  · exact .inl (PersistCall.log_unprepared hprepared)

/-- What a call has done by any of its steps: a rename that has survived puts what is left of the
file in place, anything else leaves the file at the path alone. -/
theorem PersistCall.durable_log (path : Path) (call : PersistCall L) (n : Nat)
    (disk : FileSystem) :
    durable .absent disk ((call.log path).take n) path =
      if call.kept && ((call.log path).take n).any Op.renames then .file call.left
      else disk path := by
  have hne : temporaryPath path ≠ path := temporaryPath_ne path
  rcases call.log_cases path with hlog | ⟨content, left, hlog⟩ | ⟨bytes, _, _, hlog⟩
  · rw [hlog, List.take_nil]
    simp
  · rw [hlog]
    rcases n with _ | n
    · simp
    · rw [List.take_of_length_le (Nat.succ_le_succ (Nat.zero_le n)),
        durable_write_other Entry.absent hne]
      simp [Op.renames]
  · rw [hlog]
    rcases n with _ | _ | n
    · simp
    · rw [List.take_succ_cons, List.take_zero, durable_write_other Entry.absent hne]
      simp [Op.renames]
    · rw [List.take_of_length_le (by simp), durable_replace hne]
      simp [Op.renames]

end

/-! ## The file after a cut -/

/-- `serde_json` reads nothing off an encoding of which data have been lost: it is cut off, or has a
NUL in it. -/
def Leddy.RejectsRemains (L : Leddy) : Prop :=
  ∀ {config bytes left}, L.toVecPretty config = .ok bytes → Remains 0 bytes left → left ≠ bytes →
    ∃ error, L.fromSlice left = .error error

namespace Outage

variable {outage : Outage L} {fs : FileSystem} {fallback before : DisplayConfig}

/-- Each call up to the cut has come to some step of its log. -/
theorem calls_take {c : PersistCall L × List (Op Path Entry)} (h : c ∈ outage.calls path) :
    ∃ n, c.2 = (c.1.log path).take n := by
  rcases List.mem_append.1 h with hdone | hcurrent
  · obtain ⟨call, _, rfl⟩ := List.mem_map.1 hdone
    exact ⟨_, List.take_length.symm⟩
  · obtain ⟨call, _, rfl⟩ := List.mem_map.1 hcurrent
    exact ⟨_, rfl⟩

/-- The file is a register: after the cut it is what is left of the last call whose rename has
survived. -/
theorem disk_eq (path : Path) (fs : FileSystem) (outage : Outage L) :
    outage.disk path fs path =
      ((outage.survivor path).map fun call => Entry.file call.left).getD (fs path) := by
  have hpart : ∀ c ∈ outage.calls path, ∀ disk, durable .absent disk c.2 path =
      if c.1.kept && c.2.any Op.renames then .file c.1.left else disk path := by
    intro c hc disk
    obtain ⟨n, hn⟩ := calls_take hc
    rw [hn]
    exact c.1.durable_log path n disk
  rw [disk, durable_register hpart, survivor, Option.map_map]
  rfl

/-- A call whose rename has survived was for a supported configuration, which it had encoded. -/
theorem survivor_encoded {call : PersistCall L} (h : outage.survivor path = some call) :
    Supported L call.config ∧ ∃ bytes, L.toVecPretty call.config = .ok bytes := by
  obtain ⟨c, hlast, rfl⟩ := Option.map_eq_some_iff.1 h
  obtain ⟨hc, hkept⟩ := List.mem_filter.1 (List.mem_of_getLast? hlast)
  obtain ⟨n, hn⟩ := calls_take hc
  have hrenames : (c.1.log path).any Op.renames = true := by
    obtain ⟨op, hop, hrenames⟩ := List.any_eq_true.1 (Bool.and_eq_true_iff.1 hkept).2
    exact List.any_eq_true.2 ⟨op, List.mem_of_mem_take (hn ▸ hop), hrenames⟩
  rcases c.1.log_cases path with hlog | ⟨content, left, hlog⟩ | ⟨bytes, hsupported, hbytes, _⟩
  · rw [hlog] at hrenames
    cases hrenames
  · rw [hlog] at hrenames
    cases hrenames
  · exact ⟨hsupported, bytes, hbytes⟩

/-- Loading a file that holds what is left of an encoding. -/
theorem loadConfig_left {call : PersistCall L} (hdecodes : L.Decodes) (hrejects : L.RejectsRemains)
    (hsupported : Supported L call.config) {bytes : List UInt8}
    (hbytes : L.toVecPretty call.config = .ok bytes) (hfile : fs path = .file call.left) :
    (call.left = bytes ∧ loadConfig L fs path fallback = .ok call.config) ∨
      call.left ≠ bytes ∧ ∃ error, loadConfig L fs path fallback = .error error := by
  rw [loadConfig, FileSystem.read, hfile]
  by_cases hwhole : call.left = bytes
  · refine .inl ⟨hwhole, ?_⟩
    have hvalid : validateSupportedConfig L call.config = .ok () := hsupported
    simp only [hwhole, hdecodes hbytes, hvalid, Except.mapError, Bind.bind, Except.bind]
    rfl
  · obtain ⟨error, herror⟩ := hrejects hbytes (call.remains bytes hbytes) hwhole
    refine .inr ⟨hwhole, ⟨.invalidData, error⟩, ?_⟩
    simp only [herror, Except.mapError, Bind.bind, Except.bind]

/-- After a power cut behind or within any sequence of calls, the next start finds one of the
configurations it should find exactly if the last rename to have survived, where one has, has put a
file in place whose data are all there, and belongs to a call for one of these configurations. -/
theorem survives_iff (hdecodes : L.Decodes) (hrejects : L.RejectsRemains) (path : Path)
    (hload : loadConfig L fs path fallback = .ok before) (outage : Outage L) :
    outage.Survived path fs fallback before ↔
      ∀ call, outage.survivor path = some call →
        L.toVecPretty call.config = .ok call.left ∧
          outage.Allowed path fs before call.config := by
  have hdisk := disk_eq path fs outage
  unfold Survived
  cases hsurvivor : outage.survivor path with
  | none =>
    rw [hsurvivor] at hdisk
    have hloads : loadConfig L (outage.disk path fs) path fallback = .ok before :=
      (loadConfig_congr hdisk).trans hload
    refine ⟨fun _ _ h => (Option.some_ne_none _ h.symm).elim, fun _ => ?_⟩
    exact ⟨before, hloads, .inr (.inr rfl)⟩
  | some call =>
    rw [hsurvivor] at hdisk
    obtain ⟨hsupported, bytes, hbytes⟩ := survivor_encoded hsurvivor
    rcases loadConfig_left hdecodes hrejects hsupported hbytes hdisk with
      ⟨hwhole, hloads⟩ | ⟨hlost, error, hloads⟩
    · constructor
      · intro h call' hcall'
        cases hcall'
        obtain ⟨config, hfound, hallowed⟩ := h
        rw [hloads] at hfound
        cases hfound
        exact ⟨hbytes.trans (congrArg _ hwhole.symm), hallowed⟩
      · intro h
        exact ⟨call.config, hloads, (h call rfl).2⟩
    · constructor
      · intro h
        obtain ⟨config, hfound, _⟩ := h
        rw [hloads] at hfound
        cases hfound
      · intro h
        have hwhole := (h call rfl).1
        rw [hbytes] at hwhole
        cases hwhole
        exact absurd rfl hlost

end Outage

/-! ## With reference instances -/

namespace Reference

/-- A byte as two bytes that are no NUL. -/
def nibbles (b : UInt8) : List UInt8 := [b / 16 + 1, b % 16 + 1]

/-- The bytes of such pairs. -/
def bytesOf : List UInt8 → List UInt8
  | high :: low :: rest => ((high - 1) * 16 + (low - 1)) :: bytesOf rest
  | _ => []

/-- The two halves of every byte give the bytes back. -/
theorem bytesOf_nibbles (bytes : List UInt8) : bytesOf (bytes.flatMap nibbles) = bytes := by
  induction bytes with
  | nil => rfl
  | cons b bytes ih =>
    have hbyte : (b / 16 + 1 - 1) * 16 + (b % 16 + 1 - 1) = b := by
      have hlt := b.toNat_lt
      apply UInt8.toNat_inj.1
      simp only [UInt8.add_sub_cancel, UInt8.toNat_add, UInt8.toNat_mul, UInt8.toNat_div,
        UInt8.toNat_mod, UInt8.reduceToNat]
      omega
    rw [List.flatMap_cons, nibbles]
    simp only [List.cons_append, List.nil_append, bytesOf, ih, hbyte]

/-- No half of a byte is encoded as zero, so zeroed blocks are no text. -/
theorem zero_notMem_nibbles (bytes : List UInt8) : 0 ∉ bytes.flatMap nibbles := by
  have hne : ∀ b : UInt8, b.toNat < 255 → b + 1 ≠ 0 := by
    intro b hlt heq
    have hzero := congrArg UInt8.toNat heq
    simp only [UInt8.toNat_add, UInt8.reduceToNat] at hzero
    omega
  intro h
  obtain ⟨b, _, hb⟩ := List.mem_flatMap.1 h
  have hlt := b.toNat_lt
  rcases List.mem_cons.1 hb with hhigh | hlow
  · refine hne (b / 16) ?_ hhigh.symm
    simp only [UInt8.toNat_div, UInt8.reduceToNat]
    omega
  · refine hne (b % 16) ?_ (List.mem_singleton.1 hlow).symm
    simp only [UInt8.toNat_mod, UInt8.reduceToNat]
    omega

/-- A configuration as text, in which no NUL occurs. -/
def encodeText (config : DisplayConfig) : Except String (List UInt8) :=
  (encode config).map fun bytes => bytes.flatMap nibbles

/-- Reads such a text. -/
def decodeText (text : List UInt8) : Except String DisplayConfig :=
  if text.length = 14 ∧ 0 ∉ text then decode (bytesOf text) else .error "not a configuration"

/-- A text has two bytes for each byte of the configuration. -/
theorem encodeText_ok {config : DisplayConfig} {text : List UInt8}
    (h : encodeText config = .ok text) :
    ∃ bytes, encode config = .ok bytes ∧ text = bytes.flatMap nibbles ∧ text.length = 14 := by
  unfold encodeText at h
  cases hbytes : encode config with
  | error error => rw [hbytes] at h; cases h
  | ok bytes =>
    rw [hbytes] at h
    cases h
    refine ⟨bytes, rfl, rfl, ?_⟩
    unfold encode at hbytes
    split at hbytes
    · cases hbytes
      rfl
    · cases hbytes

end Reference

/-- The reference instance with configurations as text. -/
def Leddy.textReference : Leddy :=
  { Leddy.reference with
    toVecPretty := Reference.encodeText
    fromSlice := Reference.decodeText }

/-- What the text encoding writes it reads back. -/
theorem Leddy.textReference_decodes : Leddy.textReference.Decodes := by
  intro config text h
  obtain ⟨bytes, hbytes, rfl, hlen⟩ := Reference.encodeText_ok h
  show Reference.decodeText _ = _
  rw [Reference.decodeText, if_pos ⟨hlen, Reference.zero_notMem_nibbles bytes⟩,
    Reference.bytesOf_nibbles]
  exact Reference.decode_encode hbytes

/-- Whatever else a power cut may leave of a text is refused. -/
theorem Leddy.textReference_rejectsRemains : Leddy.textReference.RejectsRemains := by
  intro config text left h hremains hne
  obtain ⟨bytes, _, rfl, hlen⟩ := Reference.encodeText_ok h
  refine ⟨"not a configuration", if_neg fun hwhole => hne ?_⟩
  exact hremains.eq (hwhole.1.trans hlen.symm) hwhole.2

/-- A call that returns and whose rename survives a later cut. -/
def renamedCall (left : List UInt8)
    (hremains : ∀ bytes, Reference.encodeText Reference.supportedConfig = .ok bytes →
      Remains 0 bytes left) : PersistCall Leddy.textReference where
  config := Reference.supportedConfig
  outcome := ⟨.ok (), .complete, .ok ()⟩
  left := left
  kept := true
  remains := hremains

/-- A cut behind one call, whose data are all there. -/
def wholeOutage : Outage Leddy.textReference where
  done := [renamedCall ((Reference.encodeText Reference.supportedConfig).toOption.getD [])
    fun bytes h => by cases h; exact remains_self]
  current := none
  made := 0

/-- A cut behind one call, whose data are lost. -/
def lostOutage : Outage Leddy.textReference where
  done := [renamedCall [] fun _ _ => remains_nil]
  current := none
  made := 0

/-- The configuration of an empty environment. -/
def fallbackConfig : DisplayConfig := ⟨100, 10, 96, true, .topLeft, some defaultSafetyLimits⟩

/-- The path of the configuration file in an empty environment. -/
def defaultConfigPath : Path := .ofOsStr (.text "/var/lib/leddy/display-config.json")

/-- One call of `persist_config` has returned, and its rename and its data are on the disk. The next
start finds the configuration of that call just if the renamed file holds all the call has written,
and it does. -/
theorem survives_iff_whole :
    wholeOutage.Survived defaultConfigPath (fun _ => .absent) fallbackConfig fallbackConfig ↔
      ∀ call, wholeOutage.survivor defaultConfigPath = some call →
        Leddy.textReference.toVecPretty call.config = .ok call.left ∧
          wholeOutage.Allowed defaultConfigPath (fun _ => .absent) fallbackConfig call.config :=
  Outage.survives_iff Leddy.textReference_decodes Leddy.textReference_rejectsRemains
    defaultConfigPath rfl wholeOutage

/-- The call has returned and its rename has survived, but the file is empty: the next start fails,
where the one before had taken the fallback. -/
theorem lost_data_fails :
    loadConfig Leddy.textReference (fun _ => .absent) defaultConfigPath fallbackConfig =
      .ok fallbackConfig ∧
    lostOutage.lastCompleted defaultConfigPath (fun _ => .absent) =
      some Reference.supportedConfig ∧
    loadConfig Leddy.textReference (lostOutage.disk defaultConfigPath fun _ => .absent)
      defaultConfigPath fallbackConfig = .error ⟨.invalidData, "not a configuration"⟩ ∧
    ¬ lostOutage.Survived defaultConfigPath (fun _ => .absent) fallbackConfig fallbackConfig := by
  have hfails : loadConfig Leddy.textReference (lostOutage.disk defaultConfigPath fun _ => .absent)
      defaultConfigPath fallbackConfig = .error ⟨.invalidData, "not a configuration"⟩ := rfl
  refine ⟨rfl, rfl, hfails, fun h => ?_⟩
  obtain ⟨config, hfound, _⟩ := h
  rw [hfails] at hfound
  cases hfound

end LeddyRaspPi
