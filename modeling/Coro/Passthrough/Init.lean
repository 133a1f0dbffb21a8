import Coro.Passthrough.EnumerateDevice

/-!
`AlsaPassthroughSink::init` and `initPassthrough`, and `create` and `deinit` around them. The
opening calls, `snd_pcm_query_chmaps` and `snd_pcm_close` are calls of a `ProbeRun`; `InitializeHW`
and `InitializeSW` run on the device `hw`. `IsLayoutValid`, `BestMatch`, `CAEUtil::NumBits` and
`AE_MIN_PERIODSIZE` are parameters, and `snd_pcm_get_chmap` answers `actualMap`.
-/

namespace AlsaPassthroughSink

/-- `aesParameters(format)`, with `m_passthrough` and `format.sampleRate`: the IEC 958 channel
status bytes `AES0` to `AES3` appended to the device name. -/
def aesParameters (passthrough : Bool) (format : AudioFormat) (sampleRate : Nat) : List Char :=
  (if passthrough then "AES0=0x06" else "AES0=0x04").toList ++ ",AES1=0x82,AES2=0x00".toList ++
    (if passthrough ∧ format.channelLayout.length = 8 then ",AES3=0x09"
    else if sampleRate = 192000 then ",AES3=0x0e"
    else if sampleRate = 176400 then ",AES3=0x0c"
    else if sampleRate = 96000 then ",AES3=0x0a"
    else if sampleRate = 88200 then ",AES3=0x08"
    else if sampleRate = 48000 then ",AES3=0x02"
    else if sampleRate = 44100 then ",AES3=0x00"
    else if sampleRate = 32000 then ",AES3=0x03"
    else ",AES3=0x01").toList

/-- The members a successful `init` sets. -/
structure Configured where
  pcm : List Char
  passthrough : Bool
  format : AudioFormat
  setup : HwSetup
deriving DecidableEq, Repr

/-- How `init` ends. -/
inductive Initialized
  /-- It returned false, with `pcm` in `m_pcm`. -/
  | failed (pcm : Option (List Char))
  /-- It returned true. -/
  | configured (sink : Configured)
deriving DecidableEq, Repr

/-- `m_pcm` after `init`. -/
def Initialized.pcm : Initialized → Option (List Char)
  | .failed pcm => pcm
  | .configured sink => some sink.pcm

section Init

variable (probe : ProbeDevice) (hw : HwDevice) (numBits : AudioSampleFormat → Int) (minPeriodSize : Nat)
  (bestMatch : BestMatch) (actualMap : Option Chmap) (isLayoutValid : AudioChannelLayout → Bool)

/-- `!InitializeHW(inconfig, outconfig) || !InitializeSW(outconfig)` on `hw`: what `InitializeHW`
set when both return true. -/
def initializeParams (passthrough : Bool) (inconfig : ALSAConfig) : HwRun (Option HwSetup) := do
  match ← initializeHW hw numBits passthrough minPeriodSize inconfig with
  | none => return none
  | some setup => return if ← initializeSW hw setup.outconfig then some setup else none

/-- The end of `init` on the open handle `pcm`; `none` when the run is undefined. -/
def configureOpened (pcm : List Char) (passthrough : Bool) (inconfig : ALSAConfig) (format : AudioFormat)
    (layout : Nat → Option AudioChannelLayout) : Option Initialized :=
  match (initializeParams hw numBits minPeriodSize passthrough inconfig).run [] with
  | none => none
  | some (none, _) => some (.failed (some pcm))
  | some (some setup, _) =>
    if passthrough ∧ inconfig.channels ≠ setup.outconfig.channels then some (.failed (some pcm))
    else
      (layout setup.outconfig.channels).map fun channelLayout =>
        if isLayoutValid channelLayout then
          .configured ⟨pcm, passthrough, ⟨setup.outconfig.format, channelLayout, format.streamType⟩, setup⟩
        else .failed (some pcm)

/-- The channel map `init` selects on the open handle `pcm`: none for a passthrough, otherwise
`SelectALSAChannelMap` over the maps `snd_pcm_query_chmaps` returns. -/
def selectChannelMap (passthrough : Bool) (format : AudioFormat) (pcm : List Char) : ProbeRun (Option Chmap) :=
  if passthrough then pure none
  else (fun maps => selectALSAChannelMap bestMatch format.channelLayout maps.chmaps) <$>
    probeCall probe (.queryChmaps (some pcm))

/-- `openAudioDevice(device, params, channels, &m_pcm, config)`, then `next` on the handle it
opened (it returns true only with one); false, with the handle it leaves, when it fails. -/
def openThen (device params : List Char) (channels : Nat) (pcm : Option (List Char))
    (next : List Char → ProbeRun (Option Initialized)) : ProbeRun (Option Initialized) := do
  match ← openAudioDevice probe device params channels pcm with
  | (true, some opened) => next opened
  | (_, pcm) => pure (some (.failed pcm))

/-- `init(device, format)` for a format of `sampleRate`, on a sink whose `m_pcm` is `pcm`; `none`
when the run is undefined. `inconfig.periodSize` and `frameSize` are not read. -/
def init (device : List Char) (format : AudioFormat) (sampleRate : Nat) (pcm : Option (List Char)) :
    ProbeRun (Option Initialized) :=
  match getChannelLayoutLegacy format 2 8 with
  | none => pure none
  | some legacy =>
    let passthrough := decide (format.sampleFormat = .Bitstream)
    let inconfig : ALSAConfig := ⟨if passthrough then .S16NE else format.sampleFormat, sampleRate, legacy.length, 0, 0⟩
    if inconfig.channels = 0 then pure (some (.failed pcm))
    else
      let devType := aeDeviceTypeFromName device
      let params :=
        if passthrough ∨ devType = .Hdmi ∨ devType = .Spdif then aesParameters passthrough format sampleRate else []
      openThen probe device params inconfig.channels pcm fun opened => do
        let selected ← selectChannelMap probe bestMatch passthrough format opened
        let inconfig := match selected with
          | some map => { inconfig with channels := map.pos.length }
          | none => inconfig
        pure (configureOpened hw numBits minPeriodSize isLayoutValid opened passthrough inconfig format
          fun channels => getChannelLayout bestMatch format channels actualMap)

/-- `initPassthrough(device, format)` for a format of `sampleRate`, on a sink whose `m_pcm` is
`pcm`. -/
def initPassthrough (device : AudioDeviceInfo) (format : AudioFormat) (sampleRate : Nat) (pcm : Option (List Char)) :
    ProbeRun (Option Initialized) :=
  let inconfig : ALSAConfig := ⟨.S16NE, sampleRate, (channelLayoutPassthrough format).length, 0, 0⟩
  if inconfig.channels = 0 then pure (some (.failed pcm))
  else
    openThen probe device.deviceName (aesParameters true format sampleRate) inconfig.channels pcm fun opened =>
      pure (configureOpened hw numBits minPeriodSize isLayoutValid opened true inconfig format
        fun _ => some (channelLayoutPassthrough format))

/-- `deinit()` on a sink whose `m_pcm` is `pcm`: `Stop()` and `snd_pcm_close`, after which `m_pcm`
is `NULL`. -/
def deinit : Option (List Char) → ProbeRun Unit
  | none => pure ()
  | some pcm => discard <| probeCall probe (.close (some pcm))

/-- `create(device, desiredFormat)`: the configured sink, or `nullptr` once `delete` has run the
destructor's `deinit` on the sink `init` failed on; `none` when the run is undefined. -/
def create (device : List Char) (format : AudioFormat) (sampleRate : Nat) : ProbeRun (Option (Option Configured)) := do
  match ← init probe hw numBits minPeriodSize bestMatch actualMap isLayoutValid device format sampleRate none with
  | none => pure none
  | some (.configured sink) => pure (some (some sink))
  | some (.failed pcm) => do
    deinit probe pcm
    pure (some none)

/-! ### Handles -/

theorem selectChannelMap_held (passthrough : Bool) (format : AudioFormat) (h : List Char) (calls : List ProbeCall) :
    heldAfter probe calls.length [h] (selectChannelMap probe bestMatch passthrough format h calls).2 = some [h] := by
  unfold selectChannelMap
  split
  · rfl
  · simp [probeCall, heldAfter, heldStep]

variable {probe hw numBits minPeriodSize bestMatch actualMap isLayoutValid}

theorem configureOpened_pcm {pcm : List Char} {passthrough : Bool} {inconfig : ALSAConfig} {format : AudioFormat}
    {layout : Nat → Option AudioChannelLayout} {result : Initialized}
    (ended : configureOpened hw numBits minPeriodSize isLayoutValid pcm passthrough inconfig format layout = some result) :
    result.pcm = some pcm := by
  unfold configureOpened at ended
  split at ended
  · cases ended
  · cases ended; rfl
  · split at ended
    · cases ended; rfl
    · obtain ⟨channelLayout, -, rfl⟩ := Option.map_eq_some'.mp ended
      split <;> rfl

theorem openThen_held {device params : List Char} {channels : Nat} {pcm : Option (List Char)}
    {next : List Char → ProbeRun (Option Initialized)}
    (next_held : ∀ opened calls result, (next opened calls).1 = some result →
      heldAfter probe calls.length [opened] (next opened calls).2 = some result.pcm.toList)
    (calls : List ProbeCall) (result : Initialized)
    (ended : (openThen probe device params channels pcm next calls).1 = some result) :
    heldAfter probe calls.length pcm.toList (openThen probe device params channels pcm next calls).2 =
      some result.pcm.toList := by
  obtain ⟨held, -⟩ := openAudioDevice_held probe device params channels pcm calls
  rw [openThen, ProbeRun.bind_apply] at ended ⊢
  rw [heldAfter_append, held, Option.some_bind, ← List.length_append]
  generalize openAudioDevice probe device params channels pcm calls = o at ended ⊢
  obtain ⟨⟨ok, opened⟩, new⟩ := o
  cases ok <;> cases opened
  case true.some h => exact next_held h _ result ended
  all_goals cases ended; rfl

theorem init_held (device : List Char) (format : AudioFormat) (sampleRate : Nat) (pcm : Option (List Char))
    (calls : List ProbeCall) (result : Initialized)
    (ended : (init probe hw numBits minPeriodSize bestMatch actualMap isLayoutValid device format sampleRate pcm
      calls).1 = some result) :
    heldAfter probe calls.length pcm.toList
      (init probe hw numBits minPeriodSize bestMatch actualMap isLayoutValid device format sampleRate pcm calls).2 =
        some result.pcm.toList := by
  revert ended
  unfold init
  cases getChannelLayoutLegacy format 2 8 with
  | none => exact nofun
  | some legacy =>
  dsimp only
  by_cases empty : legacy.length = 0
  · rw [if_pos empty]
    intro ended
    cases ended
    rfl
  rw [if_neg empty]
  refine openThen_held (fun opened calls result ended => ?_) calls result
  rw [ProbeRun.bind_apply] at ended ⊢
  dsimp only [ProbeRun.pure_apply] at ended
  rw [heldAfter_append, selectChannelMap_held, Option.some_bind, ← List.length_append,
    configureOpened_pcm ended]
  rfl

theorem deinit_held (pcm : Option (List Char)) (calls : List ProbeCall) :
    heldAfter probe calls.length pcm.toList (deinit probe pcm calls).2 = some [] := by
  cases pcm with
  | none => rfl
  | some h => simp [deinit, probeCall, heldAfter, heldStep]

variable (probe hw numBits minPeriodSize bestMatch actualMap isLayoutValid)

/-- On every device, a run of `create` reaches undefined behaviour in `init`, or passes only open
handles and returns a sink whose `m_pcm` is the one handle open, or `nullptr` with none open. -/
theorem create_holds_sink_handle (device : List Char) (format : AudioFormat) (sampleRate : Nat)
    (calls : List ProbeCall) :
    (create probe hw numBits minPeriodSize bestMatch actualMap isLayoutValid device format sampleRate calls).1 = none ∨
      ∃ sink, (create probe hw numBits minPeriodSize bestMatch actualMap isLayoutValid device format sampleRate
          calls).1 = some sink ∧
        heldAfter probe calls.length []
          (create probe hw numBits minPeriodSize bestMatch actualMap isLayoutValid device format sampleRate calls).2 =
            some (sink.map Configured.pcm).toList := by
  have held := @init_held probe hw numBits minPeriodSize bestMatch actualMap isLayoutValid device format sampleRate none
    calls
  rw [Option.toList_none] at held
  rw [create, ProbeRun.bind_apply]
  generalize init probe hw numBits minPeriodSize bestMatch actualMap isLayoutValid device format sampleRate none calls = o
    at held ⊢
  obtain ⟨result, new⟩ := o
  cases result with
  | none => exact .inl rfl
  | some result =>
  cases result with
  | configured sink =>
    refine .inr ⟨some sink, rfl, ?_⟩
    dsimp only
    rw [ProbeRun.pure_apply, List.append_nil]
    exact held _ rfl
  | failed pcm =>
    refine .inr ⟨none, rfl, ?_⟩
    dsimp only
    rw [ProbeRun.bind_apply]
    dsimp only [ProbeRun.pure_apply]
    rw [List.append_nil, heldAfter_append, held _ rfl, Option.some_bind, ← List.length_append]
    exact deinit_held pcm _

/-! ### Passthrough -/

variable {probe hw numBits minPeriodSize bestMatch actualMap isLayoutValid}

theorem initializeParams_hw {passthrough : Bool} {inconfig : ALSAConfig} {calls log : List HwCall} {setup : HwSetup}
    (run : (initializeParams hw numBits minPeriodSize passthrough inconfig).run calls = some (some setup, log)) :
    ∃ log', (initializeHW hw numBits passthrough minPeriodSize inconfig).run calls = some (some setup, log') := by
  simp only [initializeParams, StateT.run_bind, Option.bind_eq_bind] at run
  obtain ⟨⟨result, mid⟩, first, run⟩ := Option.bind_eq_some.mp run
  cases result with
  | none => cases run
  | some setup' =>
    simp only [StateT.run_bind, Option.bind_eq_bind] at run
    obtain ⟨⟨ok, _⟩, -, run⟩ := Option.bind_eq_some.mp run
    cases ok <;> cases run
    exact ⟨mid, first⟩

theorem configureOpened_configured {pcm : List Char} {passthrough : Bool} {inconfig : ALSAConfig}
    {format : AudioFormat} {layout : Nat → Option AudioChannelLayout} {sink : Configured}
    (ended : configureOpened hw numBits minPeriodSize isLayoutValid pcm passthrough inconfig format layout =
      some (.configured sink)) :
    ∃ setup log channelLayout, (initializeParams hw numBits minPeriodSize passthrough inconfig).run [] =
        some (some setup, log) ∧ (passthrough = true → inconfig.channels = setup.outconfig.channels) ∧
      layout setup.outconfig.channels = some channelLayout ∧
      sink = ⟨pcm, passthrough, ⟨setup.outconfig.format, channelLayout, format.streamType⟩, setup⟩ := by
  unfold configureOpened at ended
  split at ended
  · cases ended
  · cases ended
  rename_i setup log run
  split at ended
  · cases ended
  rename_i kept
  obtain ⟨channelLayout, laid, configured⟩ := Option.map_eq_some'.mp ended
  split at configured
  · cases configured
    exact ⟨setup, log, channelLayout, run, fun passes => Decidable.not_not.mp fun other => kept ⟨passes, other⟩,
      laid, rfl⟩
  · cases configured

theorem openThen_configured {device params : List Char} {channels : Nat} {pcm : Option (List Char)}
    {next : List Char → ProbeRun (Option Initialized)} {calls : List ProbeCall} {sink : Configured}
    (ended : (openThen probe device params channels pcm next calls).1 = some (.configured sink)) :
    ∃ opened calls', (next opened calls').1 = some (.configured sink) := by
  rw [openThen, ProbeRun.bind_apply] at ended
  generalize openAudioDevice probe device params channels pcm calls = o at ended
  obtain ⟨⟨ok, opened⟩, new⟩ := o
  cases ok <;> cases opened
  case true.some h => exact ⟨h, _, ended⟩
  all_goals cases ended

theorem initPassthrough_configured (device : AudioDeviceInfo) (format : AudioFormat) (sampleRate : Nat)
    (pcm : Option (List Char)) (calls : List ProbeCall) (sink : Configured)
    (ended : (initPassthrough probe hw numBits minPeriodSize isLayoutValid device format sampleRate pcm calls).1 =
      some (.configured sink)) :
    sink.passthrough = true ∧ sink.format.sampleFormat ∈ [.S16NE, .S16BE, .S16LE] ∧
      sink.format.channelLayout = channelLayoutPassthrough format ∧
      sink.setup.outconfig.channels = (channelLayoutPassthrough format).length := by
  unfold initPassthrough at ended
  split at ended
  · cases ended
  obtain ⟨opened, _, ended⟩ := openThen_configured ended
  dsimp only [ProbeRun.pure_apply] at ended
  obtain ⟨setup, log, channelLayout, run, counted, laid, rfl⟩ := configureOpened_configured ended
  obtain ⟨_, run⟩ := initializeParams_hw run
  cases laid
  refine ⟨rfl, ?_, rfl, (counted rfl).symm⟩
  show setup.outconfig.format ∈ [.S16NE, .S16BE, .S16LE]
  rcases initializeHW_format_tried hw run with requested | tried
  · rw [requested]
    exact (by decide : (requestedFormat .S16NE).2 ∈ [AudioSampleFormat.S16NE, .S16BE, .S16LE])
  · revert tried
    cases setup.outconfig.format <;> decide

theorem init_bitstream (device : AudioDeviceInfo) (format : AudioFormat) (bitstream : format.sampleFormat = .Bitstream)
    (sampleRate : Nat) (pcm : Option (List Char)) :
    init probe hw numBits minPeriodSize bestMatch actualMap isLayoutValid device.deviceName format sampleRate pcm =
      initPassthrough probe hw numBits minPeriodSize isLayoutValid device format sampleRate pcm := by
  have laid : ∀ channels, getChannelLayout bestMatch format channels actualMap = some (channelLayoutPassthrough format) :=
    fun _ => by unfold getChannelLayout; rw [if_pos bitstream]
  unfold init initPassthrough
  rw [getChannelLayoutLegacy, if_pos bitstream]
  simp only [bitstream, decide_True, if_true, true_or, selectChannelMap, laid, pure_bind]

variable (probe hw numBits minPeriodSize bestMatch actualMap isLayoutValid)

/-- For every bitstream format, `init` runs as `initPassthrough` does, and when it returns true the
sink passes the stream through as 16-bit PCM with the stream's raw layout. -/
theorem init_passes_bitstream_through (device : AudioDeviceInfo) (format : AudioFormat)
    (bitstream : format.sampleFormat = .Bitstream) (sampleRate : Nat) (pcm : Option (List Char)) :
    init probe hw numBits minPeriodSize bestMatch actualMap isLayoutValid device.deviceName format sampleRate pcm =
        initPassthrough probe hw numBits minPeriodSize isLayoutValid device format sampleRate pcm ∧
      ∀ calls sink, (init probe hw numBits minPeriodSize bestMatch actualMap isLayoutValid device.deviceName format
          sampleRate pcm calls).1 = some (.configured sink) →
        sink.passthrough = true ∧ sink.format.sampleFormat ∈ [.S16NE, .S16BE, .S16LE] ∧
          sink.format.channelLayout = channelLayoutPassthrough format ∧
          sink.setup.outconfig.channels = (channelLayoutPassthrough format).length :=
  ⟨init_bitstream device format bitstream sampleRate pcm, fun calls sink ended =>
    initPassthrough_configured device format sampleRate pcm calls sink
      (by rw [← init_bitstream device format bitstream sampleRate pcm]; exact ended)⟩

end Init

/-- An AC-3 stream on an HDMI device that takes every open, configured by `narrowDevice`: `init`
returns true. -/
theorem init_passes_ac3_through :
    let format : AudioFormat := ⟨.Bitstream, [], .Ac3⟩
    let device : AudioDeviceInfo := ⟨"hdmi:CARD=x,DEV=0".toList, .Hdmi, [], [], [], [], [], [], true⟩
    (∃ sink, (init healthyDevice narrowDevice (fun _ => 16) 256 (fun _ _ => (0, 0)) none (fun _ => true)
        device.deviceName format 48000 none []).1 = some (.configured sink)) ∧
      format.sampleFormat = .Bitstream ∧
      (init healthyDevice narrowDevice (fun _ => 16) 256 (fun _ _ => (0, 0)) none (fun _ => true) device.deviceName
          format 48000 none =
        initPassthrough healthyDevice narrowDevice (fun _ => 16) 256 (fun _ => true) device format 48000 none ∧
      ∀ calls sink, (init healthyDevice narrowDevice (fun _ => 16) 256 (fun _ _ => (0, 0)) none (fun _ => true)
          device.deviceName format 48000 none calls).1 = some (.configured sink) →
        sink.passthrough = true ∧ sink.format.sampleFormat ∈ [.S16NE, .S16BE, .S16LE] ∧
          sink.format.channelLayout = channelLayoutPassthrough format ∧
          sink.setup.outconfig.channels = (channelLayoutPassthrough format).length) :=
  ⟨⟨_, rfl⟩, rfl, init_passes_bitstream_through healthyDevice narrowDevice (fun _ => 16) 256 (fun _ _ => (0, 0)) none
    (fun _ => true) _ _ rfl 48000 none⟩

end AlsaPassthroughSink
