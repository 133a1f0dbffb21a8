import Mathlib

/-!
The format types the modelled stages read; their headers are not under src/, and the enumerators
are those the modelled code names.
-/

namespace Coro.Audio

inductive AudioCodec
  | rawInt16
  | rawFloat32
  | ac3
deriving DecidableEq, Repr

/-- `size(codec)`: bytes per sample, `sizeof(int16_t)` and `sizeof(float)` for the two raw
codecs the converters read. AC-3 frames have no sample width, written 0 here. -/
def AudioCodec.size : AudioCodec → Nat
  | .rawInt16 => 2
  | .rawFloat32 => 4
  | .ac3 => 0

inductive SampleRate
  | rate44100
  | rate48000
deriving DecidableEq, Repr

/-- `toInt(rate)`. -/
def SampleRate.toInt : SampleRate → Nat
  | .rate44100 => 44100
  | .rate48000 => 48000

inductive Channels
  | stereo
deriving DecidableEq, Repr

structure AudioConf where
  codec : AudioCodec
  rate : SampleRate
  channels : Channels
deriving DecidableEq, Repr

end Coro.Audio
