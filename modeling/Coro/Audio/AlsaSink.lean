import Coro.Audio.AudioTypes

/-!
`coro::audio::AlsaSink`: the handle `m_pcm`, the device name and the format, and the alsa-lib
calls of `onProcess`, `setDevice` and `onStop`. The device answers every call with any status;
`writeSimple` retries while the device keeps failing and recovering, so its loop runs on fuel.
-/

namespace Coro.Audio

/-- An alsa-lib call on a PCM, with the `snd_pcm_t*` it passes (`none` is `nullptr`); an opened
handle is named by the index of the `snd_pcm_open` call that produced it. -/
inductive AlsaCall
  | open (device : String)
  | setParams (pcm : Option Nat) (rate : Nat)
  | swParamsCurrent (pcm : Option Nat)
  | prepare (pcm : Option Nat)
  | writei (pcm : Option Nat) (offset frames : Int)
  | recover (pcm : Option Nat) (err : Int)
  | drain (pcm : Option Nat)
  | close (pcm : Option Nat)
deriving DecidableEq, Repr

/-- The handle a call passes; `snd_pcm_open` passes none. -/
def AlsaCall.handle : AlsaCall → Option (Option Nat)
  | .open _ => none
  | .setParams pcm _ | .swParamsCurrent pcm | .prepare pcm | .writei pcm _ _ | .recover pcm _
  | .drain pcm | .close pcm => some pcm

/-- The device: its answer to the `n`-th call of a run. -/
abbrev Device := Nat → AlsaCall → Int

/-- The fields of `AlsaSink` the modelled code reads. -/
structure AlsaSink where
  pcm : Option Nat
  device : String
  conf : AudioConf
deriving DecidableEq, Repr

/-- A sink and the calls it has made so far, oldest first. -/
structure World where
  sink : AlsaSink
  calls : List AlsaCall
deriving DecidableEq, Repr

namespace AlsaSink

section Operations

variable (device : Device)

/-- Make one call and read the device's answer. -/
def call (c : AlsaCall) : StateM World Int :=
  modifyGet fun w => (device w.calls.length c, { w with calls := w.calls ++ [c] })

/-- `m_pcm = pcm`. -/
def setPcm (pcm : Option Nat) : StateM World Unit :=
  modify fun w => { w with sink := { w.sink with pcm := pcm } }

/-- `AlsaSink::onStop`. -/
def onStop : StateM World Unit := do
  let pcm := (← get).sink.pcm
  if pcm.isSome then
    let _ ← call device (.drain pcm)
    let _ ← call device (.close pcm)
    setPcm none

/-- `AlsaSink::openSimple`: `snd_pcm_open` stores the new handle into `m_pcm` only when it
succeeds; a failed `snd_pcm_set_params` leaves the device open. -/
def openSimple (conf : AudioConf) : StateM World Bool := do
  let w ← get
  if w.sink.pcm.isSome then return false
  let err ← call device (.open w.sink.device)
  if err ≠ 0 then return false
  setPcm (some w.calls.length)
  let err ← call device (.setParams (some w.calls.length) conf.rate.toInt)
  if err ≠ 0 then return false
  return true

/-- `AlsaSink::start`: the result of `openSimple` is not read. -/
def start (conf : AudioConf) : StateM World Unit := do
  let _ ← openSimple device conf
  let pcm := (← get).sink.pcm
  let err ← call device (.swParamsCurrent pcm)
  if err < 0 then return
  let _ ← call device (.prepare pcm)

/-- `AlsaSink::setDevice`. -/
def setDevice (name : String) : StateM World Unit := do
  if name = (← get).sink.device then return
  modify fun w => { w with sink := { w.sink with device := name } }
  onStop device
  start device (← get).sink.conf

/-- The loop of `AlsaSink::writeSimple` from byte `offset` of the samples on, with `frameCount`
frames left, for at most `fuel` iterations. -/
def writeLoop : Nat → Int → Int → StateM World Unit
  | 0, _, _ => pure ()
  | fuel + 1, frameCount, offset => do
    if frameCount ≤ 0 then return
    let pcm := (← get).sink.pcm
    let ret ← call device (.writei pcm offset frameCount)
    if ret = 0 then return
    let ret ← if ret < 0 then call device (.recover pcm ret) else pure ret
    if ret < 0 then return
    writeLoop fuel (frameCount - ret) (offset + ret * 4)

/-- `AlsaSink::writeSimple(samples, bytesCount)`: four bytes per S16 stereo frame. -/
def writeSimple (fuel bytesCount : Nat) : StateM World Unit :=
  writeLoop device fuel (bytesCount / 4 : Nat) 0

/-- `AlsaSink::onProcess(conf, buffer)` on a buffer of `bytes` bytes; `ac3Payload` is the size
`doAc3Payload` leaves. -/
def onProcess (ac3Payload : Nat → Nat) (fuel : Nat) (conf : AudioConf) (bytes : Nat) :
    StateM World AudioConf := do
  if (← get).sink.conf ≠ conf then
    onStop device
    start device conf
    modify fun w => { w with sink := { w.sink with conf := conf } }
  if (← get).sink.pcm.isNone then
    start device conf
  let bytes := if conf.codec = .ac3 then ac3Payload bytes else bytes
  writeSimple device fuel bytes
  return conf

end Operations

/-- A sink that has opened nothing yet, with `m_pcm = nullptr`. -/
def fresh (name : String) (conf : AudioConf) : World := ⟨⟨none, name, conf⟩, []⟩

/-- A first `onProcess` on a device that cannot be opened hands `m_pcm = nullptr` to
`snd_pcm_sw_params_current`, `snd_pcm_prepare` and `snd_pcm_writei`. -/
theorem failed_open_reaches_device_api :
    let busy : Device := fun _ c => match c with | .open _ => -16 | _ => 0
    ((onProcess busy id 1 ⟨.rawInt16, .rate44100, .stereo⟩ 4).run
        (fresh "default" ⟨.rawInt16, .rate48000, .stereo⟩)).2.calls =
      [.open "default", .swParamsCurrent none, .prepare none,
        .open "default", .swParamsCurrent none, .prepare none, .writei none 0 1] := by
  decide

end AlsaSink

end Coro.Audio
