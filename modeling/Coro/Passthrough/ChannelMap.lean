import Mathlib.Data.List.Basic

/-!
The channel maps of `AlsaPassthroughSink`: the conversions between alsa-lib's positions and
`AudioChannel`s, and `SelectALSAChannelMap`. `AudioChannelLayout` is not under src/: its channel
tests follow their names and spec.md, and `BestMatch` is a parameter.
-/

namespace AlsaPassthroughSink

/-- The `AE_CH_*` channels of `AudioChannelLayout` that `AlsaPassthroughSink.cpp` names. -/
inductive AudioChannel
  | NULL | RAW | FL | FR | FC | LFE | BL | BR | FLOC | FROC | BC | SL | SR
  | TFL | TFR | TFC | TC | TBL | TBR | TBC | BLOC | BROC
  | UNKNOWN1 | UNKNOWN2 | UNKNOWN3 | UNKNOWN4 | UNKNOWN5 | UNKNOWN6 | UNKNOWN7 | UNKNOWN8
deriving DecidableEq, Repr

/-- An `AudioChannelLayout`: its channels in order; `count()` is the length. -/
abbrev AudioChannelLayout := List AudioChannel

/-- The `SND_CHMAP_*` positions the conversions name, and any other value a driver reports. -/
inductive ChmapPosition
  | UNKNOWN | FL | FR | RL | RR | FC | LFE | SL | SR | RC | FLC | FRC | RLC | RRC
  | TC | TFL | TFR | TFC | TRL | TRR | TRC
  | other (raw : Nat)
deriving DecidableEq, Repr

/-- A `snd_pcm_chmap_t`: `channels` is the length of `pos`. -/
structure Chmap where
  pos : List ChmapPosition
deriving DecidableEq, Repr

/-- The `SND_CHMAP_TYPE_*` of a queried map. -/
inductive ChmapType
  | NONE | FIXED | VAR | PAIRED
deriving DecidableEq, Repr

/-- A `snd_pcm_chmap_query_t`. -/
structure ChmapQuery where
  type : ChmapType
  map : Chmap
deriving DecidableEq, Repr

/-- `ALSAChannelToAEChannel`. -/
def alsaChannelToAEChannel : ChmapPosition → AudioChannel
  | .FL => .FL | .FR => .FR | .FC => .FC | .LFE => .LFE | .RL => .BL | .RR => .BR
  | .FLC => .FLOC | .FRC => .FROC | .RC => .BC | .SL => .SL | .SR => .SR
  | .TFL => .TFL | .TFR => .TFR | .TFC => .TFC | .TC => .TC | .TRL => .TBL | .TRR => .TBR
  | .TRC => .TBC | .RLC => .BLOC | .RRC => .BROC
  | .UNKNOWN | .other _ => .UNKNOWN1

/-- `AEChannelToALSAChannel`. -/
def aeChannelToALSAChannel : AudioChannel → ChmapPosition
  | .FL => .FL | .FR => .FR | .FC => .FC | .LFE => .LFE | .BL => .RL | .BR => .RR
  | .FLOC => .FLC | .FROC => .FRC | .BC => .RC | .SL => .SL | .SR => .SR
  | .TFL => .TFL | .TFR => .TFR | .TFC => .TFC | .TC => .TC | .TBL => .TRL | .TBR => .TRR
  | .TBC => .TRC | .BLOC => .RLC | .BROC => .RRC
  | _ => .UNKNOWN

/-- `ALSAchmapToAEChannelMap`. -/
def alsaChmapToAEChannelMap (alsaMap : Chmap) : AudioChannelLayout :=
  alsaMap.pos.map alsaChannelToAEChannel

/-- `AEChannelMapToALSAchmap`. -/
def aeChannelMapToALSAchmap (info : AudioChannelLayout) : Chmap :=
  ⟨info.map aeChannelToALSAChannel⟩

/-- `CopyALSAchmap`: a copy of the map, its channel count and positions. -/
def copyALSAchmap (alsaMap : Chmap) : Chmap := ⟨alsaMap.pos⟩

/-- Modelled from the spec: `AudioChannelLayout::HasChannel` is not under src/; a layout has a
channel when one of its entries is that channel. -/
def hasChannel (info : AudioChannelLayout) (channel : AudioChannel) : Bool := info.contains channel

/-- `AudioChannelLayout::ContainsChannels(rhs)`: every channel of `rhs` is one of the layout's. -/
def containsChannels (info rhs : AudioChannelLayout) : Bool := rhs.all (hasChannel info)

/-- Modelled from the spec: `AudioChannelLayout::ReplaceChannel(from, to)` is not under src/; it
puts `to` in place of the first `from`. -/
def replaceChannel (info : AudioChannelLayout) (old new : AudioChannel) : AudioChannelLayout :=
  info.replace old new

/-- `GetAlternateLayoutForm`: for a symmetrical layout, the side and back channels exchanged the
way CEA-861-D's 7.1 and the 5.1 variants need; otherwise the empty layout. -/
def getAlternateLayoutForm (info : AudioChannelLayout) : AudioChannelLayout :=
  let has := hasChannel info
  if has .BL = has .BR ∧ has .SL = has .SR ∧ has .BLOC = has .BROC then
    if has .SL ∧ has .BL ∧ !has .BLOC then
      replaceChannel (replaceChannel (replaceChannel (replaceChannel info .BL .BLOC) .BR .BROC) .SL .BL) .SR .BR
    else if !has .SL ∧ has .BL ∧ has .BLOC then
      replaceChannel (replaceChannel (replaceChannel (replaceChannel info .BL .SL) .BR .SR) .BLOC .BL) .BROC .BR
    else if has .SL ∧ !has .BL then
      replaceChannel (replaceChannel info .SL .BL) .SR .BR
    else if !has .SL ∧ has .BL then
      replaceChannel (replaceChannel info .BL .SL) .BR .SR
    else []
  else []

/-- `BestMatch(dsts, &score)` of `AudioChannelLayout`, not under src/: the index it selects and
its score. -/
abbrev BestMatch := AudioChannelLayout → List AudioChannelLayout → Int × Int

section Select

variable (bestMatch : BestMatch)

/-- The first loop of `SelectALSAChannelMap`: the first queried map with `info.count()` channels
and the channels of `info`, or else of its alternate form, in the form the device takes it. -/
def exactMatch (info infoAlternate : AudioChannelLayout) : List ChmapQuery → Option Chmap
  | [] => none
  | supportedMap :: supportedMaps =>
    if supportedMap.map.pos.length = info.length then
      let candidate := alsaChmapToAEChannelMap supportedMap.map
      let found (selectedInfo : AudioChannelLayout) : Option Chmap :=
        if supportedMap.type = .VAR then
          some (aeChannelMapToALSAchmap selectedInfo)
        else
          some (copyALSAchmap supportedMap.map)
      if !containsChannels candidate info || !containsChannels info candidate then
        if !containsChannels candidate infoAlternate || !containsChannels infoAlternate candidate then
          exactMatch info infoAlternate supportedMaps
        else found infoAlternate
      else found info
    else exactMatch info infoAlternate supportedMaps

/-- The index the best-effort fallback of `SelectALSAChannelMap` settles on: the best match for
`info`, or for its alternate form when that scores higher and `info` scored below zero. -/
def fallbackIndex (info infoAlternate : AudioChannelLayout) (supportedMapsAE : List AudioChannelLayout) : Int :=
  let (best, score) := bestMatch info supportedMapsAE
  if infoAlternate.length ≠ 0 ∧ score < 0 then
    let (bestAlt, scoreAlt) := bestMatch infoAlternate supportedMapsAE
    if scoreAlt > score then bestAlt else best
  else best

/-- `SelectALSAChannelMap(info)` on the maps `snd_pcm_query_chmaps` returned (`none` is `NULL`).
An index past the maps, which `BestMatch` does not return, reads no map here. -/
def selectALSAChannelMap (info : AudioChannelLayout) : Option (List ChmapQuery) → Option Chmap
  | none => none
  | some supportedMaps =>
    let infoAlternate := getAlternateLayoutForm info
    match exactMatch info infoAlternate supportedMaps with
    | some chmap => some chmap
    | none =>
      let best := fallbackIndex bestMatch info infoAlternate
        (supportedMaps.map fun supportedMap => alsaChmapToAEChannelMap supportedMap.map)
      if best > 0 then (supportedMaps[best.toNat]?).map fun supportedMap => copyALSAchmap supportedMap.map
      else none

/-- Two layouts with the same channels, each containing the other's. -/
def sameChannels (candidate info : AudioChannelLayout) : Bool :=
  containsChannels candidate info && containsChannels info candidate

/-- A stereo request on a device with one centre-channel map: when the best-effort search picks
index `0`, `SelectALSAChannelMap` returns `NULL`. -/
theorem selectALSAChannelMap_drops_first_map (selects : (bestMatch [.FL, .FR] [[.FC]]).1 = 0) :
    selectALSAChannelMap bestMatch [.FL, .FR] (some [⟨.FIXED, ⟨[.FC]⟩⟩]) = none := by
  have alternate : getAlternateLayoutForm [.FL, .FR] = [] := by decide
  have index : fallbackIndex bestMatch [.FL, .FR] [] [[.FC]] = 0 := by
    rcases pair : bestMatch [.FL, .FR] [[.FC]] with ⟨best, score⟩
    rw [pair] at selects
    simp only [fallbackIndex, pair, List.length_nil, ne_eq, not_true_eq_false, false_and, if_false]
    exact selects
  simp only [selectALSAChannelMap, alternate]
  rw [show exactMatch [.FL, .FR] [] [⟨.FIXED, ⟨[.FC]⟩⟩] = none by decide]
  simp only [List.map_cons, List.map_nil, alsaChmapToAEChannelMap, alsaChannelToAEChannel, index]
  exact if_neg (Int.lt_irrefl 0)

end Select

/-- A search that picks the only map there is, as any search over one map does. -/
theorem selectALSAChannelMap_drops_first_map_only :
    let bestMatch : BestMatch := fun _ _ => (0, -3000)
    (bestMatch [.FL, .FR] [[.FC]]).1 = 0 ∧
      selectALSAChannelMap bestMatch [.FL, .FR] (some [⟨.FIXED, ⟨[.FC]⟩⟩]) = none :=
  ⟨rfl, selectALSAChannelMap_drops_first_map _ rfl⟩

end AlsaPassthroughSink
