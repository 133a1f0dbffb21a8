import Coro.Passthrough.OpenDevice

/-!
`enumerateDevice`, which probes one ALSA device for `enumerateDevices`: it opens the device, reads
its names after `snd_pcm_info`, and tests its sample rates, channel counts and formats. The
channel loop reopens a PCM device at 8, 6 and 4 channels, and a stereo "default" is enumerated
as `@`. `AddMissingChannels` and `ResolveChannels` are not under src/ and are parameters.
-/

namespace AlsaPassthroughSink

/-- The fields of an `AudioDeviceInfo` that `enumerateDevice` fills. -/
structure AudioDeviceInfo where
  deviceName : List Char
  deviceType : AudioDeviceType
  displayName : List Char
  displayNameExtra : List Char
  channels : AudioChannelLayout
  sampleRates : List Nat
  sampleFormat : List AudioSampleFormat
  streamTypes : List StreamType
  wantsIECPassthrough : Bool
deriving DecidableEq, Repr

/-- `s_sampleRates`. -/
def sampleRates : List Nat := [32000, 44100, 48000, 96000, 192000]

/-- The stream types an HDMI device is given whatever its ELD says. -/
def hdmiStreamTypes : List StreamType :=
  [.Ac3, .DtsHd, .DtsHdMaster, .STREAM_TYPE_DTSHD_CORE, .STREAM_TYPE_DTS_1024, .STREAM_TYPE_DTS_2048, .Dts512,
    .Eac3, .TrueHd]

/-- The stream types an S/PDIF device is given. -/
def spdifStreamTypes : List StreamType :=
  [.Ac3, .STREAM_TYPE_DTSHD_CORE, .STREAM_TYPE_DTS_1024, .STREAM_TYPE_DTS_2048, .Dts512]

/-- What `enumerateDevice` reads off a device on a card, from the card's name and the PCM's name. -/
def cardNames (deviceName : List Char) (deviceType : AudioDeviceType) (cardName pcminfoName : List Char) :
    List Char × List Char × List StreamType × List AudioSampleFormat :=
  let displayName :=
    if deviceType = .Hdmi ∧ cardName.length > 5 ∧ cardName.drop (cardName.length - 5) = " HDMI".toList then
      cardName.take (cardName.length - 5)
    else cardName
  let extra := if pcminfoName ≠ "USB Audio".toList then pcminfoName else []
  let (extra, streamTypes, sampleFormat) : List Char × List StreamType × List AudioSampleFormat :=
    match deviceType with
    | .Hdmi => (extra, [], [])
    | .Spdif => ((if extra ≠ [] then extra ++ [' '] else extra) ++ "S/PDIF".toList, spdifStreamTypes, [.Bitstream])
    | .Pcm => (if extra = [] then "Analog".toList else extra, [], [])
  if deviceName = ['@'] ∨ deviceName = "default".toList then
    ("Default (".toList ++ displayName ++ (if extra = [] then [] else ' ' :: extra ++ [')']), [], streamTypes,
      sampleFormat)
  else (displayName, extra, streamTypes, sampleFormat)

/-- The sample formats the loop of `enumerateDevice` tests, from `Max` down: all but `Bitstream`,
`Max` and those `toAlsa` has no ALSA format for. -/
def testedFormats : List AudioSampleFormat :=
  formatsDescending.filter fun i => i ≠ .Bitstream ∧ i ≠ .Max ∧ toAlsa i ≠ .UNKNOWN

/-- What one pass of `enumerateDevice` ends with. -/
inductive Enumerated
  /-- It returned without adding to the list. -/
  | skipped
  /-- It added `info` to the list. -/
  | added (info : AudioDeviceInfo)
  /-- "default" looked like the stereo dmix device: it closed it, for `@` to be enumerated instead. -/
  | asSurround
deriving DecidableEq, Repr

section Enumerate

variable (device : ProbeDevice) (addMissingChannels resolveChannels : AudioChannelLayout → AudioChannelLayout → AudioChannelLayout)

/-- `snd_pcm_hw_params_test_*(…) >= 0`. -/
def tests (c : ProbeCall) : ProbeRun Bool := do
  return 0 ≤ (← probeCall device c).status

/-- The values of a list the device takes, tested one after the other with `call`. -/
def testEach {α : Type} (call : α → ProbeCall) : List α → ProbeRun (List α)
  | [] => pure []
  | a :: as => do
    let taken ← tests device (call a)
    let rest ← testEach call as
    return if taken then a :: rest else rest

/-- `snd_pcm_info` and the names read after it; a failed `snd_pcm_info` closes the handle, and
the names are read all the same. -/
def readNames (deviceName description : List Char) (deviceType : AudioDeviceType) (pcm : Option (List Char)) :
    ProbeRun (List Char × List Char × List StreamType × List AudioSampleFormat) := do
  let pcminfo ← probeCall device (.info pcm)
  if pcminfo.status < 0 then
    discard <| probeCall device (.close pcm)
  if 0 ≤ pcminfo.card then
    let cardName ← probeCall device (.cardGetName pcminfo.card)
    return cardNames deviceName deviceType (if cardName.status = 0 then cardName.name else []) pcminfo.name
  else
    return (description, [], [], [])

/-- The channel loop of `enumerateDevice` from `i` channels down: the first count the device takes,
and the handle after it. -/
def detectChannels (deviceName : List Char) (deviceType : AudioDeviceType) :
    Nat → Option (List Char) → ProbeRun (Nat × Option (List Char))
  | 0, pcm => pure (0, pcm)
  | i + 1, pcm => do
    let pcm ← if deviceType = .Pcm ∧ (i + 1 = 8 ∨ i + 1 = 6 ∨ i + 1 = 4) then
        Prod.snd <$> openAudioDevice device deviceName [] (i + 1 : Nat) pcm
      else pure pcm
    if ← tests device (.testChannels pcm (i + 1)) then pure (i + 1, pcm)
    else detectChannels deviceName deviceType i pcm

/-- `info.channels` and `alsaChannels` after the channel maps, or the legacy map when there are none. -/
def probedChannels (maps : Option (List ChmapQuery)) (channels : Nat) : AudioChannelLayout × AudioChannelLayout :=
  match maps with
  | some alsaMaps =>
    alsaMaps.foldl (fun (info, alsa) alsaMap =>
      let aeMap := alsaChmapToAEChannelMap alsaMap.map
      (addMissingChannels info aeMap, addMissingChannels alsa aeMap)) ([], [])
  | none =>
    (legacyALSAChannelMap.take channels).foldl (fun (info, alsa) channel =>
      (if hasChannel info channel then info else info ++ [channel], alsa ++ [channel])) ([], [])

/-- What `enumerateDevice` finds on a device that has a playback configuration. -/
def probeDevice (deviceName : List Char) (deviceType : AudioDeviceType)
    (names : List Char × List Char × List StreamType × List AudioSampleFormat) (pcm : Option (List Char)) :
    ProbeRun Enumerated := do
  let rates ← testEach device (fun rate => .testRate pcm rate) sampleRates
  let (channels, pcm) ← detectChannels device deviceName deviceType alsaMaxChannels pcm
  if deviceName = "default".toList ∧ channels = 2 then do
    discard <| probeCall device (.close pcm)
    pure .asSurround
  else do
    let maps ← probeCall device (.queryChmaps pcm)
    let (infoChannels, alsaChannels) := probedChannels addMissingChannels maps.chmaps channels
    let formats ← testEach device (fun i => .testFormat pcm (toAlsa i)) testedFormats
    discard <| probeCall device (.close pcm)
    let (displayName, displayNameExtra, streamTypes, sampleFormat) := names
    let (streamTypes, sampleFormat) :=
      if deviceType = .Hdmi then (streamTypes ++ hdmiStreamTypes, sampleFormat ++ formats ++ [.Bitstream])
      else (streamTypes, sampleFormat ++ formats)
    pure (.added ⟨deviceName, deviceType, displayName, displayNameExtra, resolveChannels infoChannels alsaChannels,
      rates, sampleFormat, streamTypes, true⟩)

/-- One pass of `enumerateDevice(list, device, description, config)`. -/
def enumeratePass (deviceName description : List Char) : ProbeRun Enumerated := do
  let (opened, pcm) ← openAudioDevice device deviceName [] alsaMaxChannels none
  if !opened then pure .skipped
  else do
    let deviceType := aeDeviceTypeFromName deviceName
    let names ← readNames device deviceName description deviceType pcm
    if (← probeCall device (.hwParamsAny pcm)).status < 0 then do
      discard <| probeCall device (.close pcm)
      pure .skipped
    else probeDevice device addMissingChannels resolveChannels deviceName deviceType names pcm

/-- `enumerateDevice(list, device, description, config)`: the entry it adds to `list`, if any. A
stereo "default" is enumerated as `@`, whose pass never ends that way. -/
def enumerateDevice (deviceName description : List Char) : ProbeRun (Option AudioDeviceInfo) := do
  match ← enumeratePass device addMissingChannels resolveChannels deviceName description with
  | .added info => pure (some info)
  | .skipped => pure none
  | .asSurround =>
    match ← enumeratePass device addMissingChannels resolveChannels ['@'] description with
    | .added info => pure (some info)
    | _ => pure none

/-! ### Handles

`KeepsHandles` is a triple over the open handles: one lemma per definition, composed by `bind`. -/

/-- A run of `x` from the handles `held` passes only open handles and ends in `post`, or it passed
`NULL` to `snd_pcm_hw_params_test_channels`. -/
def KeepsHandles {α : Type} (held : List (List Char)) (x : ProbeRun α) (post : α → List (List Char) → Prop) : Prop :=
  ∀ calls, (∃ held', heldAfter device calls.length held (x calls).2 = some held' ∧ post (x calls).1 held') ∨
    ∃ k, ProbeCall.testChannels none k ∈ (x calls).2

theorem heldAfter_append (n : Nat) (held : List (List Char)) (xs ys : List ProbeCall) :
    heldAfter device n held (xs ++ ys) =
      (heldAfter device n held xs).bind fun held => heldAfter device (n + xs.length) held ys := by
  induction xs generalizing n held with
  | nil => rfl
  | cons c xs ih =>
    rw [List.cons_append, heldAfter, heldAfter, Option.bind_assoc]
    simp only [ih, List.length_cons]
    rw [show n + 1 + xs.length = n + (xs.length + 1) by omega]

variable {device addMissingChannels resolveChannels}

theorem KeepsHandles.pure {α : Type} {held : List (List Char)} {a : α} {post : α → List (List Char) → Prop}
    (holds : post a held) : KeepsHandles device held (Pure.pure a) post :=
  fun _ => .inl ⟨held, rfl, holds⟩

theorem KeepsHandles.bind {α β : Type} {held : List (List Char)} {x : ProbeRun α} {f : α → ProbeRun β}
    {mid : α → List (List Char) → Prop} {post : β → List (List Char) → Prop}
    (first : KeepsHandles device held x mid) (next : ∀ a held', mid a held' → KeepsHandles device held' (f a) post) :
    KeepsHandles device held (x >>= f) post := by
  intro calls
  rw [ProbeRun.bind_apply]
  rcases first calls with ⟨held', after, holds⟩ | ⟨k, null⟩
  · rcases next _ held' holds (calls ++ (x calls).2) with ⟨held'', after', holds'⟩ | ⟨k, null⟩
    · refine .inl ⟨held'', ?_, holds'⟩
      rw [heldAfter_append, after, Option.some_bind, ← List.length_append, after']
    · exact .inr ⟨k, List.mem_append_right _ null⟩
  · exact .inr ⟨k, List.mem_append_left _ null⟩

theorem KeepsHandles.map {α β : Type} {held : List (List Char)} {x : ProbeRun α} {f : α → β}
    {post : β → List (List Char) → Prop} (first : KeepsHandles device held x fun a => post (f a)) :
    KeepsHandles device held (f <$> x) post := by
  intro calls
  rw [ProbeRun.map_apply]
  exact first calls

theorem KeepsHandles.call {held : List (List Char)} {c : ProbeCall} {post : ProbeReply → List (List Char) → Prop}
    (ok : ∀ n, ∃ held', heldStep (device n c) held c = some held' ∧ post (device n c) held') :
    KeepsHandles device held (probeCall device c) post := by
  intro calls
  obtain ⟨held', step, holds⟩ := ok calls.length
  exact .inl ⟨held', by simp [probeCall, heldAfter, step], holds⟩

theorem KeepsHandles.uses {held : List (List Char)} {c : ProbeCall} (passes : ∀ reply, heldStep reply held c = some held) :
    KeepsHandles device held (probeCall device c) fun _ held' => held' = held :=
  KeepsHandles.call fun _ => ⟨held, passes _, rfl⟩

theorem KeepsHandles.close {h : List Char} :
    KeepsHandles device [h] (discard (probeCall device (.close (some h)))) fun _ held' => held' = [] := by
  show KeepsHandles device [h] ((fun _ => ()) <$> probeCall device (.close (some h))) _
  exact KeepsHandles.map (KeepsHandles.call fun _ => ⟨[], by simp [heldStep], rfl⟩)

theorem KeepsHandles.mono {α : Type} {held : List (List Char)} {x : ProbeRun α} {post post' : α → List (List Char) → Prop}
    (first : KeepsHandles device held x post) (weaker : ∀ a held', post a held' → post' a held') :
    KeepsHandles device held x post' := fun calls =>
  (first calls).imp (fun ⟨held', after, holds⟩ => ⟨held', after, weaker _ _ holds⟩) id

theorem heldStep_uses {held : List (List Char)} {h : List Char} (open_h : h ∈ held) (reply : ProbeReply) :
    (∀ rate, heldStep reply held (.testRate (some h) rate) = some held) ∧
    (∀ k, heldStep reply held (.testChannels (some h) k) = some held) ∧
    (∀ format, heldStep reply held (.testFormat (some h) format) = some held) ∧
    heldStep reply held (.info (some h)) = some held ∧ heldStep reply held (.hwParamsAny (some h)) = some held ∧
    heldStep reply held (.queryChmaps (some h)) = some held := by
  simp [heldStep, open_h]

theorem keepsHandles_tests {held : List (List Char)} {c : ProbeCall} (passes : ∀ reply, heldStep reply held c = some held) :
    KeepsHandles device held (tests device c) fun _ held' => held' = held :=
  KeepsHandles.bind (KeepsHandles.uses passes) fun _ _ same => KeepsHandles.pure same

theorem keepsHandles_testEach {α : Type} {held : List (List Char)} (call : α → ProbeCall)
    (passes : ∀ a reply, heldStep reply held (call a) = some held) :
    ∀ xs, KeepsHandles device held (testEach device call xs) fun _ held' => held' = held
  | [] => KeepsHandles.pure rfl
  | a :: as => KeepsHandles.bind (keepsHandles_tests (passes a)) fun _ _ same => by
    subst same
    exact KeepsHandles.bind (keepsHandles_testEach call passes as) fun _ _ same => KeepsHandles.pure same

theorem keepsHandles_openAudioDevice (name params : List Char) (channels : Int) (pcm : Option (List Char)) :
    KeepsHandles device pcm.toList (openAudioDevice device name params channels pcm)
      fun opened held' => held' = opened.2.toList ∧ opened.1 = opened.2.isSome := fun calls =>
  .inl ⟨_, (openAudioDevice_held device name params channels pcm calls).1, rfl,
    (openAudioDevice_held device name params channels pcm calls).2⟩

theorem keepsHandles_readNames (infos : ∀ n pcm, 0 ≤ (device n (.info pcm)).status)
    (deviceName description : List Char) (deviceType : AudioDeviceType) (h : List Char) :
    KeepsHandles device [h] (readNames device deviceName description deviceType (some h)) fun _ held' => held' = [h] := by
  have info : KeepsHandles device [h] (probeCall device (.info (some h))) fun pcminfo held' =>
      0 ≤ pcminfo.status ∧ held' = [h] :=
    KeepsHandles.call fun n => ⟨[h], (heldStep_uses (List.mem_singleton_self h) _).2.2.2.1, infos n _, rfl⟩
  unfold readNames
  refine KeepsHandles.bind info fun pcminfo _ ⟨ok, same⟩ => ?_
  subst same
  dsimp only
  rw [if_neg (not_lt.mpr ok), pure_bind]
  split
  · exact KeepsHandles.bind (KeepsHandles.uses fun _ => rfl) fun _ _ same => KeepsHandles.pure same
  · exact KeepsHandles.pure rfl

theorem keepsHandles_null_test {α : Type} {held : List (List Char)} {k : Nat} {f : Bool → ProbeRun α}
    {post : α → List (List Char) → Prop} :
    KeepsHandles device held (tests device (.testChannels none k) >>= f) post := fun calls =>
  .inr ⟨k, by rw [ProbeRun.bind_apply]; exact List.mem_append_left _ (by simp [tests])⟩

theorem keepsHandles_detectChannels (deviceName : List Char) (deviceType : AudioDeviceType) :
    ∀ (i : Nat) (h : List Char), KeepsHandles device [h] (detectChannels device deviceName deviceType i (some h))
      fun found held' => ∃ h', found.2 = some h' ∧ held' = [h']
  | 0, h => KeepsHandles.pure ⟨h, rfl, rfl⟩
  | i + 1, h => by
    have test : ∀ (pcm : Option (List Char)) (held' : List (List Char)), held' = pcm.toList →
        KeepsHandles device held' (tests device (.testChannels pcm (i + 1)) >>= fun ok =>
          if ok = true then pure (i + 1, pcm) else detectChannels device deviceName deviceType i pcm)
          fun found held' => ∃ h', found.2 = some h' ∧ held' = [h'] := by
      rintro (_ | h') held' rfl
      · exact keepsHandles_null_test
      · refine KeepsHandles.bind (keepsHandles_tests fun reply => (heldStep_uses (List.mem_singleton_self h') reply).2.1 _)
          fun ok _ same => ?_
        subst same
        split
        · exact KeepsHandles.pure ⟨h', rfl, rfl⟩
        · exact keepsHandles_detectChannels deviceName deviceType i h'
    rw [detectChannels]
    dsimp only
    split
    · have reopen : KeepsHandles device [h] (Prod.snd <$> openAudioDevice device deviceName [] (i + 1 : Nat) (some h))
          fun pcm held' => held' = pcm.toList :=
        KeepsHandles.map ((keepsHandles_openAudioDevice deviceName [] _ (some h)).mono fun _ _ ⟨same, _⟩ => same)
      exact KeepsHandles.bind reopen test
    · exact KeepsHandles.bind (KeepsHandles.pure rfl) fun pcm held' same => test pcm held' same

theorem keepsHandles_probeDevice (deviceName : List Char) (deviceType : AudioDeviceType)
    (names : List Char × List Char × List StreamType × List AudioSampleFormat) (h : List Char) :
    KeepsHandles device [h] (probeDevice device addMissingChannels resolveChannels deviceName deviceType names (some h))
      fun _ held' => held' = [] := by
  unfold probeDevice
  refine KeepsHandles.bind
    (keepsHandles_testEach _ (fun _ reply => (heldStep_uses (List.mem_singleton_self h) reply).1 _) sampleRates)
    fun _ _ same => ?_
  subst same
  refine KeepsHandles.bind (keepsHandles_detectChannels deviceName deviceType alsaMaxChannels h)
    fun ⟨channels, pcm⟩ _ ⟨h', found, same⟩ => ?_
  subst same
  dsimp only at found ⊢
  subst found
  split
  · exact KeepsHandles.bind KeepsHandles.close fun _ _ same => KeepsHandles.pure same
  · have open_h' := List.mem_singleton_self h'
    refine KeepsHandles.bind (KeepsHandles.uses fun _ => (heldStep_uses open_h' _).2.2.2.2.2) fun _ _ same => ?_
    subst same
    refine KeepsHandles.bind
      (keepsHandles_testEach _ (fun _ reply => (heldStep_uses open_h' reply).2.2.1 _) testedFormats)
      fun _ _ same => ?_
    subst same
    exact KeepsHandles.bind KeepsHandles.close fun _ _ same => KeepsHandles.pure same

theorem keepsHandles_enumeratePass (infos : ∀ n pcm, 0 ≤ (device n (.info pcm)).status) (deviceName description : List Char) :
    KeepsHandles device [] (enumeratePass device addMissingChannels resolveChannels deviceName description)
      fun _ held' => held' = [] := by
  unfold enumeratePass
  refine KeepsHandles.bind (keepsHandles_openAudioDevice deviceName [] _ none)
    fun ⟨opened, pcm⟩ _ ⟨same, isSome⟩ => ?_
  dsimp only at same isSome ⊢
  subst same isSome
  cases pcm with
  | none => exact KeepsHandles.pure rfl
  | some h =>
    refine KeepsHandles.bind (keepsHandles_readNames infos deviceName description _ h) fun _ _ same => ?_
    subst same
    refine KeepsHandles.bind (KeepsHandles.uses fun _ => (heldStep_uses (List.mem_singleton_self h) _).2.2.2.2.1)
      fun _ _ same => ?_
    subst same
    split
    · exact KeepsHandles.bind KeepsHandles.close fun _ _ same => KeepsHandles.pure same
    · exact keepsHandles_probeDevice deviceName _ _ h

variable (device addMissingChannels resolveChannels)

/-- On every device whose `snd_pcm_info` succeeds, `enumerateDevice` passes only open handles and
returns with none open, unless a failed reopen made it test `NULL`. -/
theorem enumerateDevice_passes_open_handles (infos : ∀ n pcm, 0 ≤ (device n (.info pcm)).status)
    (deviceName description : List Char) (calls : List ProbeCall) :
    heldAfter device calls.length []
        (enumerateDevice device addMissingChannels resolveChannels deviceName description calls).2 = some [] ∨
      ∃ k, ProbeCall.testChannels none k ∈
        (enumerateDevice device addMissingChannels resolveChannels deviceName description calls).2 := by
  have run : KeepsHandles device [] (enumerateDevice device addMissingChannels resolveChannels deviceName description)
      fun _ held' => held' = [] := by
    unfold enumerateDevice
    refine KeepsHandles.bind (keepsHandles_enumeratePass infos deviceName description) fun pass _ same => ?_
    subst same
    cases pass with
    | asSurround =>
      exact KeepsHandles.bind (keepsHandles_enumeratePass infos ['@'] description) fun pass _ same => by
        subst same; cases pass <;> exact KeepsHandles.pure rfl
    | _ => exact KeepsHandles.pure rfl
  rcases run calls with ⟨_, after, rfl⟩ | null
  · exact .inl after
  · exact .inr null

/-- A device whose every call succeeds, `snd_pcm_info` included. -/
def healthyDevice : ProbeDevice := fun _ _ => ⟨0, 0, [], none⟩

/-- `@` enumerated on a device whose every call succeeds. -/
theorem enumerateDevice_passes_open_handles_healthy :
    (∀ n pcm, 0 ≤ (healthyDevice n (.info pcm)).status) ∧
      (heldAfter healthyDevice 0 [] (enumerateDevice healthyDevice (fun a _ => a) (fun a _ => a) ['@'] [] []).2 = some [] ∨
        ∃ k, ProbeCall.testChannels none k ∈ (enumerateDevice healthyDevice (fun a _ => a) (fun a _ => a) ['@'] [] []).2) :=
  ⟨fun _ _ => le_refl 0,
    enumerateDevice_passes_open_handles healthyDevice (fun a _ => a) (fun a _ => a) (fun _ _ => le_refl 0) ['@'] [] []⟩

end Enumerate

end AlsaPassthroughSink
