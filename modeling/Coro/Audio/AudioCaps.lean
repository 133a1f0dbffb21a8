import Coro.Audio.AudioTypes

/-!
The capability a stage class declares in `outCaps()` / `inCaps()`, and the intersection the link
gate calls.
-/

namespace Coro.Audio

/-- Modelled from the spec: `AudioCaps` (its header is not under src/), one set of format
constraints in which every field may be unspecified (`none`), matching anything. -/
structure AudioCaps where
  codec : Option AudioCodec := none
  rate : Option SampleRate := none
  channels : Option Channels := none
deriving DecidableEq, Repr

/-- Two constraints on one field: an unspecified side takes the other, two specified sides
must agree; `none` when they do not. -/
def mergeField {α : Type} [DecidableEq α] : Option α → Option α → Option (Option α)
  | none, b => some b
  | a, none => some a
  | some a, some b => if a = b then some (some a) else none

/-- Modelled from the spec: `Caps::intersect` (`Caps.h` is not under src/), field by field,
the most specific merged capability, or `none` (invalid) when a constrained field disagrees. -/
def AudioCaps.intersect (a b : AudioCaps) : Option AudioCaps := do
  let codec ← mergeField a.codec b.codec
  let rate ← mergeField a.rate b.rate
  let channels ← mergeField a.channels b.channels
  pure ⟨codec, rate, channels⟩

end Coro.Audio
