import Coro.Passthrough.ChannelMap

/-!
The channel layout `AlsaPassthroughSink` reports: `GetChannelLayout` reads the device's current
channel map, or falls back to `GetChannelLayoutLegacy`, which reads as many entries of a
17-entry map as there are channels. A read past the end, undefined in the source, is `none`.
-/

namespace AlsaPassthroughSink

/-- The `AudioSampleFormat`s `AlsaPassthroughSink.cpp` names. -/
inductive AudioSampleFormat
  | Invalid | S16NE | S16LE | S16BE | S32NE | Float | Bitstream | Max
deriving DecidableEq, Repr

/-- The stream types `channelLayoutPassthrough` names, and any other. -/
inductive StreamType
  | DtsHdMaster | TrueHd | STREAM_TYPE_DTSHD_CORE | Dts512 | STREAM_TYPE_DTS_1024 | STREAM_TYPE_DTS_2048
  | Ac3 | Eac3 | DtsHd | other
deriving DecidableEq, Repr

/-- The fields of an `AudioFormat` the channel-layout code reads; `streamType` is
`streamInfo.type`. -/
structure AudioFormat where
  sampleFormat : AudioSampleFormat
  channelLayout : AudioChannelLayout
  streamType : StreamType
deriving DecidableEq, Repr

/-- `channelLayoutPassthrough`: as many raw channels as the bitstream needs. -/
def channelLayoutPassthrough (format : AudioFormat) : AudioChannelLayout :=
  let count := match format.streamType with
    | .DtsHdMaster | .TrueHd => 8
    | .STREAM_TYPE_DTSHD_CORE | .Dts512 | .STREAM_TYPE_DTS_1024 | .STREAM_TYPE_DTS_2048 | .Ac3 | .Eac3
    | .DtsHd => 2
    | .other => 0
  List.replicate count .RAW

/-- `ALSA_MAX_CHANNELS`. -/
def alsaMaxChannels : Nat := 16

/-- `LegacyALSAChannelMap`, of `ALSA_MAX_CHANNELS + 1` entries. -/
def legacyALSAChannelMap : List AudioChannel :=
  [.FL, .FR, .BL, .BR, .FC, .LFE, .SL, .SR,
    .UNKNOWN1, .UNKNOWN2, .UNKNOWN3, .UNKNOWN4, .UNKNOWN5, .UNKNOWN6, .UNKNOWN7, .UNKNOWN8, .NULL]

/-- `LegacyALSAChannelMap51Wide`, of `ALSA_MAX_CHANNELS + 1` entries. -/
def legacyALSAChannelMap51Wide : List AudioChannel :=
  [.FL, .FR, .SL, .SR, .FC, .LFE, .BL, .BR,
    .UNKNOWN1, .UNKNOWN2, .UNKNOWN3, .UNKNOWN4, .UNKNOWN5, .UNKNOWN6, .UNKNOWN7, .UNKNOWN8, .NULL]

/-- The count the first loop of `GetChannelLayoutLegacy` settles on: one past the last of the
map's first eight channels the layout has. -/
def legacyCount (channelMap : List AudioChannel) (layout : AudioChannelLayout) : Nat :=
  (List.range 8).foldl (fun count c => if layout.any fun channel => some channel == channelMap[c]? then c + 1 else count) 0

/-- The map `GetChannelLayoutLegacy` reads: the wide one for side channels without back ones. -/
def legacyChannelMap (format : AudioFormat) : List AudioChannel :=
  if hasChannel format.channelLayout .SL && !hasChannel format.channelLayout .BL then legacyALSAChannelMap51Wide
  else legacyALSAChannelMap

/-- `GetChannelLayoutLegacy(format, minChannels, maxChannels)`: `none` when it reads past the end
of its channel map. -/
def getChannelLayoutLegacy (format : AudioFormat) (minChannels maxChannels : Nat) : Option AudioChannelLayout :=
  if format.sampleFormat = .Bitstream then some (channelLayoutPassthrough format)
  else
    let channelMap := legacyChannelMap format
    let count := min (max (legacyCount channelMap format.channelLayout) minChannels) maxChannels
    (List.range count).mapM fun i => channelMap[i]?

/-- `GetChannelLayout(format, channels)`, with the device's current map (`snd_pcm_get_chmap`,
`none` is `NULL`). -/
def getChannelLayout (bestMatch : BestMatch) (format : AudioFormat) (channels : Nat) (actualMap : Option Chmap) :
    Option AudioChannelLayout :=
  if format.sampleFormat = .Bitstream then some (channelLayoutPassthrough format)
  else match actualMap with
    | some actualMap =>
      let info := alsaChmapToAEChannelMap actualMap
      let info :=
        if !containsChannels info format.channelLayout then
          let infoAlternate := getAlternateLayoutForm info
          if infoAlternate.length ≠ 0 ∧ (bestMatch format.channelLayout [info, infoAlternate]).1 = 1 then infoAlternate
          else info
        else info
      some (info ++ List.replicate (channels - info.length) .UNKNOWN1)
    | none => getChannelLayoutLegacy format channels channels

/-- The channel count `InitializeHW` reports on a device that allows `lo` to `hi` channels. -/
def initializeHWChannels (lo hi wanted : Nat) : Nat :=
  if wanted ≤ hi then max lo wanted else hi

theorem length_legacyChannelMap (format : AudioFormat) : (legacyChannelMap format).length = alsaMaxChannels + 1 := by
  unfold legacyChannelMap
  split <;> rfl

theorem mapM_getElem?_range {α : Type} (l : List α) :
    ∀ n, (List.range n).mapM (fun i => l[i]?) = if n ≤ l.length then some (l.take n) else none
  | 0 => by rw [if_pos (Nat.zero_le _)]; rfl
  | n + 1 => by
    rw [List.range_succ, List.mapM_append, mapM_getElem?_range l n, List.mapM_cons, List.mapM_nil]
    by_cases inside : n + 1 ≤ l.length
    · rw [if_pos (by omega), if_pos inside, List.getElem?_eq_getElem inside, List.take_succ,
        List.getElem?_eq_getElem inside]
      rfl
    · rw [if_neg inside]
      by_cases edge : n ≤ l.length
      · rw [if_pos edge, List.getElem?_eq_none (by omega)]; rfl
      · rw [if_neg edge]; rfl

theorem getChannelLayoutLegacy_of_count (format : AudioFormat) (pcm : format.sampleFormat ≠ .Bitstream)
    (n : Nat) :
    getChannelLayoutLegacy format n n =
      if n ≤ alsaMaxChannels + 1 then some ((legacyChannelMap format).take n) else none := by
  rw [getChannelLayoutLegacy, if_neg pcm]
  dsimp only
  rw [min_eq_right (le_max_right _ _), mapM_getElem?_range, length_legacyChannelMap]

end AlsaPassthroughSink
