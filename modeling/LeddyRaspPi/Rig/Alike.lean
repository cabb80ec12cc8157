import LeddyRaspPi.Agent.Snapshots
import LeddyRaspPi.Agent.Twins
import LeddyRaspPi.Backends
import LeddyRaspPi.Rig.Panels

/-!
# Both backends show the same

Two agents with the same inputs, the one with a helper and the other with a snapshot file, of which
the sinks work: once the helper has caught up, the panels show at each LED what the file holds for
it (`backends_alike`). The agents are twins, so their last calls are alike (`Twins.lastCall`); the
file is in step with the one, the panels with the other, and a painting shows the frame that the
snapshot backend encodes (`Call.alike`).
-/

namespace LeddyRaspPi

open Fallible History Helper

variable {L : Leddy} {settings : RuntimeSettings} {options : Options} {rig : Rig L}

/-! ## A frame on the panels and in the file -/

/-- What is assumed of the renderer here: its frames follow the chain, and their pixels are off or
fully on. -/
structure Leddy.Wires (L : Leddy) : Prop where
  chained : ∀ {config message ms frame}, L.renderMessageFrame config message ms = .ok (some frame) →
    L.Chained config frame
  binary : ∀ {config message ms frame}, L.renderMessageFrame config message ms = .ok (some frame) →
    ∀ pixel ∈ L.rowMajor frame, pixel = 0 ∨ pixel = 255

/-- The point of the panels at which the chain has its `i`-th LED. -/
def ledPoint (options : Options) (config : DisplayConfig) (i : Nat) : Point :=
  ⟨(options.physicalWidth - config.width.toNat) / 2 + (i % config.width.toNat : Nat),
    (options.physicalHeight - config.height.toNat) / 2 + (i / config.width.toNat : Nat)⟩

/-- The panels show what a file of the snapshot backend holds: each LED its byte, and nothing
elsewhere. -/
structure Alike (options : Options) (config : DisplayConfig) (bytes : List UInt8)
    (canvas : FrameCanvas) : Prop where
  length : bytes.length = config.width.toNat * config.height.toNat
  shown : ∀ (i : Nat) (hi : i < bytes.length),
    canvas.pixel (ledPoint options config i).x (ledPoint options config i).y = .grey bytes[i]
  dark : ∀ p : Point, (∀ i < bytes.length, ledPoint options config i ≠ p) →
    canvas.pixel p.x p.y = .grey 0

section
variable {config : DisplayConfig} {pixels bytes : List UInt8}

/-- The points of a packet are those of the LEDs. -/
theorem ledPoint_rowMajor (cell : (framePacket config pixels).Cell) :
    ledPoint options config (Grid.rowMajor cell).val =
      (framePacket config pixels).point options.physicalWidth options.physicalHeight cell := by
  have hcolumn : cell.2.val < config.width.toNat := cell.2.isLt
  have hpos : 0 < config.width.toNat := Nat.zero_lt_of_lt hcolumn
  have hmod : (Grid.rowMajor cell).val % config.width.toNat = cell.2.val := by
    rw [Grid.rowMajor_val]
    exact (Nat.mul_add_mod_self_right ..).trans (Nat.mod_eq_of_lt hcolumn)
  have hdiv : (Grid.rowMajor cell).val / config.width.toNat = cell.1.val := by
    rw [Grid.rowMajor_val]
    refine (Nat.mul_comm _ _ ▸ Nat.mul_add_div hpos _ _).trans ?_
    rw [Nat.div_eq_of_lt hcolumn, Nat.add_zero]
  rw [ledPoint, hmod, hdiv]
  rfl

/-- There are as many. -/
theorem rowMajor_lt_count (cell : (framePacket config pixels).Cell) :
    (Grid.rowMajor cell).val < config.width.toNat * config.height.toNat :=
  (Fin.isLt _).trans_eq (Nat.mul_comm _ _)

/-- A painting is like a file that has at each place of the chain the intensity of the pixel that
the helper moves there. -/
theorem painting_alike (hfits : options.Fits) (hwf : (framePacket config pixels).WellFormed)
    (hlength : bytes.length = config.width.toNat * config.height.toNat)
    (hbytes : ∀ source : (framePacket config pixels).Cell,
      bytes[(Grid.rowMajor ((framePacket config pixels).chain.place _ _ source)).val]? =
        some ((framePacket config pixels).intensity (Grid.rowMajor source).val)) :
    Alike options config bytes
      (painting options.physicalWidth options.physicalHeight (framePacket config pixels)) where
  length := hlength
  shown i hi := by
    obtain ⟨cell, hcell⟩ : ∃ cell : (framePacket config pixels).Cell,
        Grid.rowMajor cell = ⟨i, by rw [hlength, Nat.mul_comm] at hi; exact hi⟩ :=
      Grid.rowMajor.surjective _
    obtain ⟨source, rfl⟩ := ((framePacket config pixels).chain.place _ _).surjective cell
    obtain rfl : (Grid.rowMajor _).val = i := congrArg Fin.val hcell
    have hbyte := hbytes source
    rw [List.getElem?_eq_getElem hi] at hbyte
    rw [ledPoint_rowMajor, Option.some.inj hbyte]
    exact (painting_painted hwf hfits).shown source (Fin.isLt _)
  dark p hp := by
    rcases (painting_painted hwf hfits).cases p with hblack | ⟨cell, rfl, -⟩
    · exact hblack
    · exact absurd (ledPoint_rowMajor _) (hp _ (hlength ▸ rowMajor_lt_count _))

/-- The frame of a renderer, and the frame of the snapshot backend. -/
theorem frame_alike (hfits : options.Fits) {frame : L.FrameBuffer}
    (hwf : (framePacket config (L.rowMajor frame)).WellFormed) (hchained : L.Chained config frame)
    (hbinary : ∀ pixel ∈ L.rowMajor frame, pixel = 0 ∨ pixel = 255) :
    Alike options config (encodeDeviceFrame L config frame)
      (painting options.physicalWidth options.physicalHeight
        (framePacket config (L.rowMajor frame))) := by
  refine painting_alike hfits hwf ?_ fun source => ?_
  · rw [encodeDeviceFrame, List.length_map, hchained.deviceOrder]
  · have hdevice := hchained.deviceOrder_eq (L.rowMajor frame)
      ((framePacket config (L.rowMajor frame)).chain.place _ _ source)
    have hpixel : (L.rowMajor frame)[(Grid.rowMajor source).val]? =
        some ((L.rowMajor frame).getD (Grid.rowMajor source).val 0) := hwf.getElem?_rowMajor source
    have hscale : scaleBrightness ((L.rowMajor frame).getD (Grid.rowMajor source).val 0)
        config.brightness = _ :=
      scaleBrightness_of_binary (hbinary _ (List.mem_of_getElem? hpixel))
    rw [Equiv.symm_apply_apply, hpixel] at hdevice
    rw [encodeDeviceFrame, List.getElem?_map, hdevice]
    exact congrArg some hscale.symm

/-- The blank frames of both. -/
theorem blank_alike (hL : L.CountsPixels) (hfits : options.Fits)
    (hwf : (framePacket config (blankPixels L config)).WellFormed) :
    Alike options config (blankPixels L config)
      (painting options.physicalWidth options.physicalHeight
        (framePacket config (blankPixels L config))) := by
  have hblank : ∀ source : (framePacket config (blankPixels L config)).Cell,
      (blankPixels L config)[(Grid.rowMajor source).val]? = some 0 := fun source =>
    List.getElem?_replicate_of_lt (hL config ▸ rowMajor_lt_count source)
  refine painting_alike hfits hwf (List.length_replicate.trans (hL config)) fun source => ?_
  have hpixel : (blankPixels L config).getD (Grid.rowMajor source).val 0 = 0 := by
    rw [List.getD_eq_getElem?_getD, hblank, Option.getD_some]
  have hscale : scaleBrightness ((blankPixels L config).getD (Grid.rowMajor source).val 0)
      config.brightness = 0 := by
    rw [hpixel, scaleBrightness_of_binary (.inl rfl), if_pos rfl]
  exact (hblank _).trans (congrArg some hscale.symm)

/-- A call of the sink is painted as the snapshot backend encodes it. -/
theorem Call.alike (hL : L.CountsPixels) (hfits : options.Fits) {call : Call L}
    (hwf : call.packet.WellFormed)
    (hframe : ∀ frame, call.frame = some frame → L.Chained call.config frame ∧
      ∀ pixel ∈ L.rowMajor frame, pixel = 0 ∨ pixel = 255) :
    Alike options call.config call.device
      (painting options.physicalWidth options.physicalHeight call.packet) := by
  obtain ⟨config, frame, sink, sent⟩ := call
  cases frame with
  | some frame => exact frame_alike hfits hwf (hframe frame rfl).1 (hframe frame rfl).2
  | none => exact blank_alike hL hfits hwf

end

/-! ## Twins make the same calls -/

/-- What a call is to show, with no sink. -/
def Call.outline (call : Call L) : Call L := ⟨call.config, call.frame, nowhere.1, []⟩

/-- The calls of an outlined history are the outlined calls. -/
theorem calls_outline (history : List (Effect L)) :
    calls (history.map Effect.outline) = (calls history).map Call.outline := by
  have hcall : ∀ effect : Effect L, effect.outline.call? = effect.call?.map Call.outline := by
    intro effect
    cases effect with
    | presented config frame before after result => cases result <;> rfl
    | cleared config before after result => cases result <;> rfl
    | _ => rfl
  rw [calls, calls, List.filterMap_map, List.map_filterMap]
  exact congrArg (List.filterMap · history) (funext hcall)

/-- The last calls of twins show the same. -/
theorem World.Twins.lastCall {world world' : World L} (h : world.Twins world') {call : Call L}
    (hcall : LeddyRaspPi.lastCall world.history = some call) :
    ∃ call', LeddyRaspPi.lastCall world'.history = some call' ∧ call'.device = call.device := by
  have hcalls : (calls world.history).map Call.outline = (calls world'.history).map Call.outline := by
    rw [← calls_outline, h.outline, calls_outline]
  have hlast : (LeddyRaspPi.lastCall world'.history).map Call.outline = some call.outline := by
    rw [LeddyRaspPi.lastCall, ← List.head?_map, ← hcalls, List.head?_map]
    exact congrArg (Option.map Call.outline) hcall
  obtain ⟨call', hcall', houtline⟩ := Option.map_eq_some_iff.1 hlast
  have hdevice : call'.outline.device = call.outline.device := congrArg Call.device houtline
  exact ⟨call', hcall', hdevice⟩

/-- They wait together. -/
theorem Machine.Twins.waits {machine machine' : Machine L} (h : machine.Twins machine')
    (hwaits : machine.Waits) : machine'.Waits := by
  unfold Machine.Waits at hwaits ⊢
  rwa [← h.1]

/-! ## The agent of the rig -/

/-- An agent that is gone stays so. -/
theorem Rig.step_hungUp (move : Move L) (h : rig.hungUp = true) :
    (rig.step settings options move).hungUp = true := by
  cases move with
  | agent input => rw [Rig.step, if_pos h]; exact h
  | hangUp input written => rw [Rig.step, if_pos h]; exact h
  | helper => exact rig.helperStep_hungUp.trans h
  | signal => exact h
  | kill => exact h

/-- A pipe that is hung up stays so. -/
theorem Rig.run_hungUp (moves : List (Move L)) (h : rig.hungUp = true) :
    (rig.run settings options moves).hungUp = true :=
  Transition.run_preserves (I := fun rig : Rig L => rig.hungUp = true)
    (fun _ move h => Rig.step_hungUp move h) h

/-- As long as it is not gone, it is where its inputs lead it. -/
theorem Rig.run_open {moves : List (Move L)} (hopen : (rig.run settings options moves).hungUp = false) :
    (rig.run settings options moves).agent =
      rig.agent.run settings (moves.filterMap Move.input?) := by
  induction moves generalizing rig with
  | nil => rfl
  | cons move moves ih =>
    have hstays : (rig.step settings options move).hungUp ≠ true := fun hgone =>
      Bool.false_ne_true (hopen.symm.trans (Rig.run_hungUp moves hgone))
    have hbefore : ¬ rig.hungUp = true := fun hgone => hstays (Rig.step_hungUp move hgone)
    refine (ih hopen).trans ?_
    cases move with
    | agent input =>
      have hagent : (rig.step settings options (.agent input)).agent =
          rig.agent.step settings input := by
        rw [Rig.step, if_neg hbefore, Rig.agentStep]
        dsimp only
        split <;> rfl
      rw [hagent]
      rfl
    | hangUp input written =>
      rw [Rig.step, if_neg hbefore] at hstays
      exact absurd rfl hstays
    | helper => rw [Rig.step, Rig.helperStep_agent]; rfl
    | signal => rfl
    | kill => rfl

/-- A helper that works comes to show the last call. -/
theorem Linked.catchesUp (hfits : options.Fits) {received : List FramePacket}
    (h : Linked options rig received) (hworks : rig.Working) :
    ∃ n ≤ rig.helper.reader.input.rest.length + 4,
      ((Rig.helperStep options)^[n] rig).panel =
        some (canvasOf options rig.agent.world.history) := by
  obtain ⟨n, hn, received', hleads⟩ := h.settles hfits
  have hagent : ((Rig.helperStep options)^[n] rig).agent = rig.agent :=
    (Rig.aside_eq hleads.aside).1
  refine ⟨n, hn.trans rig.work_le, ?_⟩
  rw [hleads.linked.panel (hleads.waits hworks), hagent]

/-! ## Both backends -/

/-- The frame of the last call was rendered with its configuration. -/
theorem lastCall_rendered {config₀ : DisplayConfig} {history : List (Effect L)}
    (htruthful : Always (Truthful config₀) history) {call : Call L}
    (hcall : lastCall history = some call) {frame : L.FrameBuffer}
    (hframe : call.frame = some frame) :
    ∃ message ms, L.renderMessageFrame call.config message ms = .ok (some frame) := by
  have hmem : call ∈ calls history := List.mem_of_mem_head? hcall
  obtain ⟨effect, heffect, heq⟩ := List.mem_filterMap.1 hmem
  obtain ⟨later, past, rfl⟩ := List.append_of_mem heffect
  have hsays := htruthful.of_suffix (List.suffix_append later (effect :: past))
  cases effect with
  | presented config frame' before after result =>
    cases result with
    | error error => cases heq
    | ok stats =>
      cases heq
      cases hframe
      obtain ⟨-, active, outside, -, -, hrendered⟩ := hsays
      exact ⟨_, _, hrendered⟩
  | cleared config before after result =>
    cases result with
    | error error => cases heq
    | ok u => cases heq; cases hframe
  | _ => cases heq

/-- Take an agent with a helper, in any interleaving with it, and one that writes snapshots, with
the same configuration and the same inputs, and let their sinks work. Wherever the agent waits, the
helper gets in a bounded number of its own moves to where the panels show, at each LED of the chain,
the byte that the other agent's file holds for it, and nothing elsewhere. -/
theorem backends_alike (hL : L.Documented) (hwires : L.Wires) (hfits : options.Fits)
    {env : Environment} {fs : FileSystem} {spawn : Except IoError Bool} {world : World L}
    (hstart : startUp L env fs spawn = .ok (settings, world))
    (hhelper : settings.hub75Helper.isSome = true) (pixels : Nat → Int → Int → Rgb)
    {moves : List (Move L)}
    (hserved : ∀ move ∈ moves, ∀ input, move.input? = some input →
      input.outside.sink = .served)
    (hrig : rig = Rig.run settings options (.initial options pixels world) moves)
    (hworks : rig.Working) (hwaits : rig.agent.Waits)
    (hcalled : lastCall rig.agent.world.history ≠ none) {path : Path}
    (hconfig : path ≠ settings.configPath)
    (htemporary : path ≠ temporaryPath settings.configPath) (fs' : FileSystem) {twin : Machine L}
    (htwin : twin = (Machine.initial world.config (.snapshot ⟨some path⟩) fs').run settings
      (moves.filterMap Move.input?)) :
    ∃ n ≤ rig.helper.reader.input.rest.length + 4, ∃ canvas bytes,
      ((Rig.helperStep options)^[n] rig).panel = some canvas ∧ twin.world.fs path = .file bytes ∧
        Alike options rig.agent.world.config bytes canvas := by
  have hhonest : Transition.Along (Rig.step settings options) Honest
      (Rig.initial options pixels world) moves :=
    Transition.along_of_mem fun move hmove rig _ input hinput => by
      rw [hserved move hmove input hinput]
      rfl
  obtain ⟨received, hlinked⟩ := linked_of_run hL hfits hstart hhelper pixels hhonest hrig
  obtain ⟨n, hn, hpanel⟩ := hlinked.catchesUp hfits hworks
  obtain ⟨call, hcall⟩ := Option.ne_none_iff_exists'.1 hcalled
  rw [canvasOf, hcall] at hpanel
  -- The other agent is a twin, and its file is in step with its last call.
  have htwins : rig.agent.Twins twin := by
    obtain ⟨_, config, sink, rfl, _⟩ := startUp_ok hstart
    subst hrig htwin
    have hinitial : Machine.Twins (Machine.initial (L := L) config sink fs)
        (Machine.initial config (.snapshot ⟨some path⟩) fs') := ⟨rfl, rfl, rfl, rfl⟩
    rw [Rig.run_open hworks.listens]
    refine hinitial.run hL fun input hinput => ?_
    obtain ⟨move, hmove, hmoved⟩ := List.mem_filterMap.1 hinput
    exact hserved move hmove input hmoved
  have hfile : Mirrors path (fs' path) twin.world := by
    have hwaits' : twin.Waits := htwins.waits hwaits
    have hwrites : WritesTo path
        (World.initial (L := L) world.config (.snapshot ⟨some path⟩) fs') := rfl
    subst htwin
    exact mirrors_run hconfig htemporary hwrites rfl _ hwaits'
  obtain ⟨call', hcall', hdevice⟩ := htwins.2.lastCall hcall
  have hbytes := hfile.file
  rw [hcall', Option.elim_some, hdevice] at hbytes
  -- Both show the call.
  have hscreen : (screenLaw L world.config).Holds rig.agent :=
    Rig.agent_holds (fun _ => screenLaw_parts.kept) (fun _ sink => screenLaw_initial sink fs) hstart
      pixels hrig
  have hcurrent : call.config = rig.agent.world.config := hwaits.current hscreen call hcall
  have hwf : call.packet.WellFormed := by
    refine sent_wellFormed (Ledger.of_holds hlinked.ledger).entered (List.mem_map_of_mem ?_)
    exact List.mem_reverse.2 (List.mem_of_mem_head? hcall)
  refine ⟨n, hn, _, _, hpanel, hbytes, hcurrent ▸ Call.alike hL.counts hfits hwf ?_⟩
  intro frame hframe
  obtain ⟨message, ms, hrendered⟩ :=
    lastCall_rendered (Rig.agent_truthful hstart pixels hrig) hcall hframe
  exact ⟨hwires.chained hrendered, hwires.binary hrendered⟩

/-! ## With the reference instance -/

/-- The reference instance, with pixels that are off or fully on. -/
@[reducible] def Leddy.binary : Leddy :=
  { Leddy.reference with
    renderMessageFrame := fun config message ms =>
      Leddy.reference.renderMessageFrame config
        { message with pixel := if message.pixel = 0 then 0 else 255 } ms }

/-- It behaves as documented, like the reference instance. -/
theorem Leddy.binary_documented : Leddy.binary.Documented where
  minWidth := rfl
  maxWidth := rfl
  minHeight := rfl
  maxHeight := rfl
  counts := Leddy.reference_countsPixels
  renders hrendered := Leddy.reference_documented.renders hrendered

/-- The chain of a frame of one colour. -/
theorem Reference.deviceOrder_replicate (config : DisplayConfig) (pixel : UInt8) :
    (⟨config, List.replicate (config.width.toNat * config.height.toNat) pixel⟩ :
        Reference.Frame).deviceOrder =
      List.replicate (config.width.toNat * config.height.toNat) pixel := by
  unfold Reference.Frame.deviceOrder
  generalize config.width.toNat = width
  generalize config.height.toNat = height
  have hrow : ∀ y < height, ((List.replicate (width * height) pixel).drop (y * width)).take width =
      List.replicate width pixel := by
    intro y hy
    have hle : y * width + width ≤ width * height := by
      rw [← Nat.succ_mul, Nat.mul_comm width]
      exact Nat.mul_le_mul_right _ hy
    rw [List.drop_replicate, List.take_replicate]
    congr 1
    omega
  calc (List.range height).flatMap _
    _ = (List.range height).flatMap fun _ => List.replicate width pixel := by
        refine List.flatMap_congr fun r hr => ?_
        have hr' : r < height := List.mem_range.1 hr
        dsimp only
        rw [hrow _ (by split <;> omega), List.reverse_replicate, ite_self]
    _ = List.replicate (width * height) pixel := by
        rw [List.flatMap_def, List.map_const', List.length_range, List.flatten_replicate_replicate,
          Nat.mul_comm]

/-- A row and a column number a pixel. -/
theorem DisplayConfig.number_lt {config : DisplayConfig} {r c : Nat}
    (hr : r < config.height.toNat) (hc : c < config.width.toNat) :
    r * config.width.toNat + c < config.width.toNat * config.height.toNat :=
  calc r * config.width.toNat + c
    _ < (r + 1) * config.width.toNat := by rw [Nat.succ_mul]; omega
    _ ≤ config.width.toNat * config.height.toNat := by
        rw [Nat.mul_comm config.width.toNat]
        exact Nat.mul_le_mul_right _ hr

/-- So do those of the display that the chain is at. -/
theorem DisplayConfig.logical_lt {config : DisplayConfig} {r c : Nat}
    (hr : r < config.height.toNat) (hc : c < config.width.toNat) :
    config.logicalRow r * config.width.toNat + config.logicalColumn r c <
      config.width.toNat * config.height.toNat := by
  have hrow : config.logicalRow r < config.height.toNat := by
    unfold logicalRow
    split <;> omega
  have hcolumn : config.logicalColumn r c < config.width.toNat := by
    unfold logicalColumn
    split <;> omega
  exact number_lt hrow hcolumn

/-- What the reference instance renders. -/
theorem Reference.rendered {config : DisplayConfig} {message : Message} {ms : UInt64} {frame : Frame}
    (h : Leddy.reference.renderMessageFrame config message ms = .ok (some frame)) :
    frame = ⟨config, List.replicate (config.width.toNat * config.height.toNat) message.pixel⟩ := by
  have hsome := Except.ok.inj h
  split at hsome
  · exact (Option.some.inj hsome).symm
  · cases hsome

/-- Its device frames follow the wiring, and its pixels are off or fully on. -/
theorem Leddy.binary_wires : Leddy.binary.Wires where
  chained {config message ms frame} hrendered := by
    obtain rfl := Reference.rendered hrendered
    have hdevice := Reference.deviceOrder_replicate config (if message.pixel = 0 then 0 else 255)
    refine ⟨List.length_replicate, (congrArg List.length hdevice).trans List.length_replicate,
      fun r hr c hc => ?_⟩
    refine (congrArg (·[r * config.width.toNat + c]?) hdevice).trans ?_
    rw [List.getElem?_replicate_of_lt (DisplayConfig.number_lt hr hc)]
    exact (List.getElem?_replicate_of_lt (DisplayConfig.logical_lt hr hc)).symm
  binary {config message ms frame} hrendered pixel hpixel := by
    obtain rfl := Reference.rendered hrendered
    rw [List.eq_of_mem_replicate hpixel]
    dsimp only
    split
    · exact .inl rfl
    · exact .inr rfl

/-- What start-up makes of an environment that names a helper. -/
def World.binary : World Leddy.binary :=
  .initial ⟨100, 10, 96, true, .topLeft, some defaultSafetyLimits⟩ (.hub75 ⟨[]⟩) fun _ => .absent

/-- The rig of the example. -/
def Rig.binary : Rig Leddy.binary := .initial defaultOptions (fun _ _ _ => ⟨9, 9, 9⟩) .binary

/-- A message is shown. -/
def binaryMoves : List (Move Leddy.binary) :=
  [.helper, .agent (.connect (.calm ⟨0, 0⟩)),
   .agent (.select (.incoming (.text (.ok (.show ⟨"m", 255, 3600000⟩)))) (.calm ⟨1000000, 1000000⟩)),
   .helper, .agent (.select .frameTick (.calm ⟨50000000, 50000000⟩))]

/-- A message is shown, in a file and on the panels. -/
theorem backends_alike_shown :
    ∃ n ≤ (Rig.binary.run (.fromEnv helperEnvironment) defaultOptions
        binaryMoves).helper.reader.input.rest.length + 4, ∃ canvas bytes,
      ((Rig.helperStep defaultOptions)^[n] (Rig.binary.run (.fromEnv helperEnvironment)
        defaultOptions binaryMoves)).panel = some canvas ∧
      ((Machine.initial World.binary.config (.snapshot ⟨some framePath⟩) fun _ => .absent).run
        (.fromEnv helperEnvironment) (binaryMoves.filterMap Move.input?)).world.fs framePath =
          .file bytes ∧
      Alike defaultOptions (Rig.binary.run (.fromEnv helperEnvironment) defaultOptions
        binaryMoves).agent.world.config bytes canvas := by
  have hserved : ∀ move ∈ binaryMoves, ∀ input, move.input? = some input →
      input.outside.sink = .served := by
    simp [binaryMoves, Move.input?, Input.outside, Outside.calm, SinkOutcome.served]
  have hstart : startUp Leddy.binary helperEnvironment (fun _ => .absent) (.ok true) =
      .ok (.fromEnv helperEnvironment, .binary) := rfl
  have hrig : Rig.binary.run (.fromEnv helperEnvironment) defaultOptions binaryMoves =
      Rig.run (.fromEnv helperEnvironment) defaultOptions
        (.initial defaultOptions (fun _ _ _ => ⟨9, 9, 9⟩) .binary) binaryMoves := rfl
  exact backends_alike Leddy.binary_documented Leddy.binary_wires defaultOptions_fits hstart rfl _
    hserved hrig ⟨by decide +kernel, by decide +kernel, by decide +kernel⟩ (by decide +kernel)
    (by decide +kernel) (by decide) (by decide) _ rfl

end LeddyRaspPi
