import Coro.Passthrough.ChannelLayout
import Coro.Passthrough.AddPackets

/-!
`AlsaPassthroughSink::InitializeHW` and `InitializeSW`: the channel count, the sample format with
its fallback loop, and the period and buffer sizes the sink negotiates with an open device. The
device answers every call, any answer; `hw_params` and `hw_params_copy` are modelled by the
sample format set on them, the one part of them the sink reads back.
-/

namespace AlsaPassthroughSink

/-- The `snd_pcm_format_t`s `toAlsa` returns, on a little-endian host, where
`SND_PCM_FORMAT_S16`, `SND_PCM_FORMAT_S32` and `SND_PCM_FORMAT_FLOAT` are the `_LE` formats. -/
inductive SndPcmFormat
  | UNKNOWN | S16_LE | S16_BE | S32_LE | FLOAT_LE
deriving DecidableEq, Repr

/-- `AlsaPassthroughSink::toAlsa`. -/
def toAlsa : AudioSampleFormat → SndPcmFormat
  | .S16NE => .S16_LE
  | .S16LE => .S16_LE
  | .S16BE => .S16_BE
  | .S32NE => .S32_LE
  | .Float => .FLOAT_LE
  | .Bitstream => .S16_LE
  | _ => .UNKNOWN

/-- `AudioSampleFormat` from `Max` down, as the fallback loop counts; `AudioFormat.h` is not under
src/, so the order is assumed to be the one `toAlsa` lists. -/
def formatsDescending : List AudioSampleFormat := [.Max, .Bitstream, .Float, .S32NE, .S16BE, .S16LE, .S16NE]

/-- The fields of an `ALSAConfig` that `init`, `InitializeHW` and `InitializeSW` read and write. -/
structure ALSAConfig where
  format : AudioSampleFormat
  sampleRate : Nat
  channels : Nat
  periodSize : Nat
  frameSize : Nat
deriving DecidableEq, Repr

/-- An alsa-lib call of `InitializeHW` or `InitializeSW` on `m_pcm`, with the values it passes. -/
inductive HwCall
  | hwParamsAny
  | setAccess
  | setRateNear (rate : Nat)
  | setChannelsMin (channels : Nat)
  | setChannelsFirst (least : Nat)
  | setChannelsLast
  | setFormat (format : SndPcmFormat)
  | getSbits (format : SndPcmFormat)
  | getBufferSizeMax
  | getPeriodSizeMax
  | setPeriodSizeMax (size : Nat)
  | setBufferSizeNear (size : Nat)
  | setPeriodSizeNear (size : Nat)
  | hwParams (format : Option SndPcmFormat)
  | getParams
  | framesToBytes
  | swParamsCurrent
  | setStartThreshold (frames : Nat)
  | setSilenceThreshold (frames : Nat)
  | getBoundary
  | setSilenceSize (frames : Nat)
  | setAvailMin (frames : Nat)
  | swParams
deriving DecidableEq, Repr

/-- The device's answer to a call: its status, and what it writes back through the pointers. -/
structure Reply where
  status : Int
  value : Nat
  periodSize : Nat
deriving DecidableEq, Repr

/-- The device: its answer to the `n`-th call of a run. -/
abbrev HwDevice := Nat → HwCall → Reply

/-- The calls made so far, oldest first; `none` for a run whose result is undefined. -/
abbrev HwRun := StateT (List HwCall) Option

/-- What a successful `InitializeHW` sets: `outconfig`, and the members `m_fragmented`,
`m_originalPeriodSize` and `m_bufferSize` (both `unsigned int`). -/
structure HwSetup where
  outconfig : ALSAConfig
  fragmented : Bool
  originalPeriodSize : Nat
  bufferSize : Nat
deriving DecidableEq, Repr

/-- `fmt` and `outconfig.format` before the device is asked: the requested format, or float when
`toAlsa` has no ALSA format for it. -/
def requestedFormat (requested : AudioSampleFormat) : SndPcmFormat × AudioSampleFormat :=
  if toAlsa requested = .UNKNOWN then (.FLOAT_LE, .Float) else (toAlsa requested, requested)

/-- The period and buffer sizes `InitializeHW` asks for, from the largest the device allows: a
period of at most 50 ms, a buffer of at most 200 ms, and at least four periods to the buffer. -/
def requestedSizes (sampleRate periodSizeMax bufferSizeMax : Nat) : Nat × Nat :=
  let periodSize := min periodSizeMax (sampleRate / 20)
  let bufferSize := min bufferSizeMax (sampleRate / 5)
  (min periodSize (bufferSize / 4), bufferSize)

/-- `std::ceil((double) AE_MIN_PERIODSIZE / periodSize)`, exact; `none` for a period of no frame,
where the quotient is infinite and its conversion to `unsigned int` undefined. -/
def fragmentsFor (minPeriodSize periodSize : Nat) : Option Nat :=
  if periodSize = 0 then none else some ((minPeriodSize + periodSize - 1) / periodSize)

/-- The value a reply of a list wrote back, `0` past its end. -/
def writtenBack (k : Nat) (replies : List Reply) : Nat := (replies.getD k ⟨0, 0, 0⟩).value

section InitializeHW

variable (device : HwDevice)

/-- Make one call and read the device's answer. -/
def hwCall (c : HwCall) : HwRun Reply := fun calls => some (device calls.length c, calls ++ [c])

/-- `c₁ != 0 || c₂ != 0 || …`: the calls in order up to the first answered other than `0`; the
answers when all are answered `0`. -/
def whileZero : List HwCall → HwRun (Option (List Reply))
  | [] => pure (some [])
  | c :: cs => do
    let reply ← hwCall device c
    if reply.status ≠ 0 then return none
    return (← whileZero cs).map (reply :: ·)

/-- The channel count: `set_channels_min`, then `set_channels_first`, or `set_channels_last`. -/
def negotiateChannels (wanted : Nat) : HwRun Nat := do
  let least ← hwCall device (.setChannelsMin wanted)
  if least.status = 0 then return (← hwCall device (.setChannelsFirst least.value)).value
  else return (← hwCall device .setChannelsLast).value

variable (numBits : AudioSampleFormat → Int) (passthrough : Bool)

/-- The fallback loop of `InitializeHW` over `candidates`. -/
def formatFallback : List AudioSampleFormat → SndPcmFormat → AudioSampleFormat → Option SndPcmFormat →
    HwRun (SndPcmFormat × AudioSampleFormat × Option SndPcmFormat)
  | [], fmt, format, current => pure (fmt, format, current)
  | i :: candidates, fmt, format, current =>
    if i = .Bitstream ∨ i = .Max then formatFallback candidates fmt format current
    else if passthrough ∧ i ≠ .S16BE ∧ i ≠ .S16LE then formatFallback candidates fmt format current
    else if toAlsa i = .UNKNOWN then formatFallback candidates .UNKNOWN format current
    else do
      if (← hwCall device (.setFormat (toAlsa i))).status < 0 then
        formatFallback candidates .UNKNOWN format none
      else
        let bits := (← hwCall device (.getSbits (toAlsa i))).status
        if bits > 0 ∧ bits ≠ numBits i then formatFallback candidates (toAlsa i) format (some (toAlsa i))
        else pure (toAlsa i, i, some (toAlsa i))

/-- The sample format: `outconfig.format` and the format set on `hw_params`, or `none` for
"Unable to find a suitable output format". -/
def chooseFormat (requested : AudioSampleFormat) : HwRun (Option (AudioSampleFormat × Option SndPcmFormat)) := do
  let fmt := (requestedFormat requested).1
  let format := (requestedFormat requested).2
  if (← hwCall device (.setFormat fmt)).status < 0 then
    let (fmt, format, current) ← formatFallback device numBits passthrough formatsDescending fmt format none
    if fmt = .UNKNOWN then return none
    return some (format, current)
  return some (format, some fmt)

/-- The last attempts at the sizes, on the copy: only the period size, only the buffer size, then
the structure with the sizes ALSA would choose; whether one was committed. -/
def commitFallback (format : Option SndPcmFormat) (bufferSize periodSize : Nat) : HwRun Bool := do
  if (← whileZero device [.setPeriodSizeNear periodSize, .hwParams format]).isSome then return true
  if (← whileZero device [.setBufferSizeNear bufferSize, .hwParams format]).isSome then return true
  return (← whileZero device [.hwParams format]).isSome

/-- The buffer and period sizes committed: four attempts, then the sizes ALSA keeps. -/
def negotiateSizes (format : Option SndPcmFormat) (bufferSize periodSize : Nat) : HwRun (Option (Nat × Nat)) := do
  let _ ← hwCall device (.setPeriodSizeMax (bufferSize / 3))
  match ← whileZero device [.setBufferSizeNear bufferSize, .setPeriodSizeNear periodSize, .hwParams format] with
  | some replies => return some (writtenBack 0 replies, writtenBack 1 replies)
  | none =>
    match ← whileZero device [.setPeriodSizeNear periodSize, .setBufferSizeNear bufferSize, .hwParams format] with
    | some replies => return some (writtenBack 1 replies, writtenBack 0 replies)
    | none =>
      if ← commitFallback device format bufferSize periodSize then
        let sizes ← hwCall device .getParams
        return some (sizes.value, sizes.periodSize)
      return none

variable (minPeriodSize : Nat)

/-- What `InitializeHW` sets once the sizes are committed; `m_timeout`, which nothing modelled
reads and which is undefined for a written-back rate of 0, is left out. -/
def configure (format : AudioSampleFormat) (sampleRate channels bufferSize periodSize : Nat) : HwRun HwSetup := do
  let fragmented := decide (periodSize < minPeriodSize)
  let fragments ← if fragmented then
      match fragmentsFor minPeriodSize periodSize with
      | some fragments => pure fragments
      | none => failure
    else pure 1
  let frameSize := (← hwCall device .framesToBytes).value
  return ⟨⟨format, sampleRate, channels, fragments * periodSize, frameSize⟩, fragmented,
    periodSize % 2 ^ 32, bufferSize % 2 ^ 32⟩

/-- `InitializeHW(inconfig, outconfig)`: `some` of what it sets when it returns `true`. -/
def initializeHW (inconfig : ALSAConfig) : HwRun (Option HwSetup) := do
  let _ ← hwCall device .hwParamsAny
  let _ ← hwCall device .setAccess
  let sampleRate := (← hwCall device (.setRateNear inconfig.sampleRate)).value
  let channels ← negotiateChannels device inconfig.channels
  match ← chooseFormat device numBits passthrough inconfig.format with
  | none => return none
  | some (format, current) =>
    let bufferSizeMax := (← hwCall device .getBufferSizeMax).value
    let periodSizeMax := (← hwCall device .getPeriodSizeMax).value
    let requested := requestedSizes sampleRate periodSizeMax bufferSizeMax
    match ← negotiateSizes device current requested.2 requested.1 with
    | none => return none
    | some (bufferSize, periodSize) =>
      return some (← configure device minPeriodSize format sampleRate channels bufferSize periodSize)

/-- `InitializeSW(inconfig)`: whether `snd_pcm_sw_params` took the software parameters. -/
def initializeSW (inconfig : ALSAConfig) : HwRun Bool := do
  let _ ← hwCall device .swParamsCurrent
  let _ ← hwCall device (.setStartThreshold intMax)
  let _ ← hwCall device (.setSilenceThreshold 0)
  let boundary := (← hwCall device .getBoundary).value
  let _ ← hwCall device (.setSilenceSize boundary)
  let _ ← hwCall device (.setAvailMin inconfig.periodSize)
  return !decide ((← hwCall device .swParams).status < 0)

end InitializeHW

/-- The period `InitializeHW` reports is a whole number of device periods reaching
`AE_MIN_PERIODSIZE`, or one device period at least that long. -/
def HwSetup.PeriodFits (minPeriodSize : Nat) (setup : HwSetup) : Prop :=
  if setup.fragmented then
    0 < setup.originalPeriodSize ∧ setup.originalPeriodSize < minPeriodSize ∧
      setup.originalPeriodSize ∣ setup.outconfig.periodSize ∧ minPeriodSize ≤ setup.outconfig.periodSize ∧
      setup.outconfig.periodSize < minPeriodSize + setup.originalPeriodSize
  else minPeriodSize ≤ setup.outconfig.periodSize ∧ setup.outconfig.periodSize % 2 ^ 32 = setup.originalPeriodSize

theorem ceil_periods (m : Nat) {p : Nat} (positive : 0 < p) : m ≤ (m + p - 1) / p * p ∧ (m + p - 1) / p * p < m + p := by
  have low := @Nat.lt_div_mul_add (m + p - 1) p positive
  have high := Nat.div_mul_le_self (m + p - 1) p
  omega

/-- Whether the fallback loop of `InitializeHW` tries the format `i`: not `Bitstream` or `Max`, and
in passthrough only the 16-bit formats of a fixed byte order. -/
def triesFormat (passthrough : Bool) (i : AudioSampleFormat) : Bool :=
  !decide (i = .Bitstream ∨ i = .Max) && !decide (passthrough ∧ i ≠ .S16BE ∧ i ≠ .S16LE)

/-- The formats the fallback loop tries, in order. -/
def fallbackFormats (passthrough : Bool) : List AudioSampleFormat := formatsDescending.filter (triesFormat passthrough)

section Capabilities

variable (numBits : AudioSampleFormat → Int) (accepts : SndPcmFormat → Bool) (sbits : SndPcmFormat → Int)

/-- Whether a device that takes the formats `accepts` gives the fallback loop the format `i`. -/
def takesFormat (i : AudioSampleFormat) : Bool :=
  accepts (toAlsa i) && !(decide (0 < sbits (toAlsa i)) && decide (sbits (toAlsa i) ≠ numBits i))

/-- What the fallback loop settles on over the formats `tried`, on such a device. -/
def fallbackChoice (tried : List AudioSampleFormat) (fmt : SndPcmFormat) (format : AudioSampleFormat)
    (current : Option SndPcmFormat) : SndPcmFormat × AudioSampleFormat × Option SndPcmFormat :=
  match tried.find? (takesFormat numBits accepts sbits) with
  | some i => (toAlsa i, i, some (toAlsa i))
  | none =>
    match tried.getLast? with
    | none => (fmt, format, current)
    | some last =>
      if accepts (toAlsa last) then (toAlsa last, format, some (toAlsa last)) else (.UNKNOWN, format, none)

/-- The format `InitializeHW` reports and the ALSA format it commits, on such a device. -/
def negotiatedFormat (passthrough : Bool) (requested : AudioSampleFormat) : Option (AudioSampleFormat × SndPcmFormat) :=
  if accepts (requestedFormat requested).1 then some ((requestedFormat requested).2, (requestedFormat requested).1)
  else
    match (fallbackFormats passthrough).find? (takesFormat numBits accepts sbits) with
    | some i => some (i, toAlsa i)
    | none =>
      match (fallbackFormats passthrough).getLast? with
      | some last => if accepts (toAlsa last) then some ((requestedFormat requested).2, toAlsa last) else none
      | none => none

theorem fallbackChoice_cons (i : AudioSampleFormat) (rest : List AudioSampleFormat)
    (withheld : takesFormat numBits accepts sbits i = false) (fmt : SndPcmFormat) (format : AudioSampleFormat)
    (current : Option SndPcmFormat) :
    fallbackChoice numBits accepts sbits (i :: rest) fmt format current =
      if accepts (toAlsa i) then fallbackChoice numBits accepts sbits rest (toAlsa i) format (some (toAlsa i))
      else fallbackChoice numBits accepts sbits rest .UNKNOWN format none := by
  cases rest with
  | nil => simp only [fallbackChoice, List.find?_cons, withheld, List.find?_nil, List.getLast?_singleton]; split_ifs <;> rfl
  | cons j rest =>
    simp only [fallbackChoice, List.find?_cons_of_neg _ (Bool.not_eq_true _ ▸ withheld), List.getLast?_cons_cons]
    split_ifs <;> rfl

theorem toAlsa_requestedFormat (requested : AudioSampleFormat) :
    toAlsa (requestedFormat requested).2 = (requestedFormat requested).1 := by
  unfold requestedFormat
  split_ifs <;> rfl

theorem negotiatedFormat_mismatch {passthrough : Bool} {requested format : AudioSampleFormat}
    {committed : SndPcmFormat}
    (negotiated : negotiatedFormat numBits accepts sbits passthrough requested = some (format, committed)) :
    committed ≠ toAlsa format ↔
      accepts (requestedFormat requested).1 = false ∧
        (fallbackFormats passthrough).find? (takesFormat numBits accepts sbits) = none ∧
        format = (requestedFormat requested).2 ∧ some committed = (fallbackFormats passthrough).getLast?.map toAlsa := by
  unfold negotiatedFormat at negotiated
  split_ifs at negotiated with taken
  · cases negotiated
    refine iff_of_false (fun mismatch => mismatch (toAlsa_requestedFormat requested).symm) fun ⟨refused, _⟩ => ?_
    rw [taken] at refused
    exact Bool.noConfusion refused
  have refused : accepts (requestedFormat requested).1 = false := by simpa using taken
  cases found : (fallbackFormats passthrough).find? (takesFormat numBits accepts sbits) with
  | some i =>
    rw [found] at negotiated
    cases negotiated
    exact iff_of_false (fun mismatch => mismatch rfl) fun ⟨_, absent, _⟩ => Option.noConfusion absent
  | none =>
    rw [found] at negotiated
    cases last : (fallbackFormats passthrough).getLast? with
    | none =>
      rw [last] at negotiated
      cases negotiated
    | some last' =>
      rw [last] at negotiated
      dsimp only at negotiated
      split_ifs at negotiated with kept
      cases negotiated
      refine iff_of_true (fun same => ?_) ⟨refused, rfl, rfl, rfl⟩
      rw [toAlsa_requestedFormat] at same
      rw [same, refused] at kept
      exact Bool.noConfusion kept

end Capabilities

section Commits

variable (device : HwDevice)

/-- The `snd_pcm_hw_params` calls of a log whose first call has index `n`: the format of the
structure each commits and the device's answer. -/
def commitsFrom : Nat → List HwCall → List (Option SndPcmFormat × Int)
  | _, [] => []
  | n, .hwParams format :: calls => (format, (device n (.hwParams format)).status) :: commitsFrom (n + 1) calls
  | n, _ :: calls => commitsFrom (n + 1) calls

/-- The answers to a run's commits: refusals, then one `0` exactly when the run `committed`. -/
def CommitsUntil (committed : Bool) (answers : List Int) : Prop :=
  ∃ refused, (∀ s ∈ refused, s ≠ 0) ∧ answers = refused ++ if committed then [0] else []

@[simp] theorem hwCall_run (c : HwCall) (calls : List HwCall) :
    (hwCall device c).run calls = some (device calls.length c, calls ++ [c]) := rfl

theorem commitsFrom_append (xs ys : List HwCall) :
    ∀ n, commitsFrom device n (xs ++ ys) = commitsFrom device n xs ++ commitsFrom device (n + xs.length) ys := by
  induction xs with
  | nil => exact fun _ => rfl
  | cons c xs more =>
    intro n
    have rest : commitsFrom device (n + 1) (xs ++ ys) =
        commitsFrom device (n + 1) xs ++ commitsFrom device (n + (c :: xs).length) ys := by
      rw [more, List.length_cons, show n + 1 + xs.length = n + (xs.length + 1) by omega]
    cases c
    case hwParams format => exact congrArg (_ :: ·) rest
    all_goals exact rest

theorem commitsFrom_of_quiet {cs : List HwCall} (quiet : ∀ c ∈ cs, ∀ format, c ≠ .hwParams format) :
    ∀ n, commitsFrom device n cs = [] := by
  induction cs with
  | nil => exact fun _ => rfl
  | cons c cs more =>
    intro n
    have rest := more fun c' member => quiet c' (List.mem_cons_of_mem c member)
    cases c with
    | hwParams format => exact absurd rfl (quiet _ (List.mem_cons_self _ _) format)
    | _ => exact rest (n + 1)

theorem quiet_cons {c : HwCall} {cs : List HwCall} (kind : ∀ f, c ≠ .hwParams f) (quiet : ∀ c ∈ cs, ∀ f, c ≠ .hwParams f) :
    ∀ c' ∈ c :: cs, ∀ f, c' ≠ .hwParams f :=
  List.forall_mem_cons.mpr ⟨kind, quiet⟩

/-- The commits of `new`, a stretch of log from call `calls.length` on: refused until one is taken,
exactly when `committed`, and all of a structure with the format `format`. -/
def CommitsOf (calls new : List HwCall) (committed : Bool) (format : Option SndPcmFormat) : Prop :=
  CommitsUntil committed ((commitsFrom device calls.length new).map Prod.snd) ∧
    ∀ c ∈ commitsFrom device calls.length new, c.1 = format

variable {device}

theorem CommitsOf.quiet {calls new : List HwCall} (format : Option SndPcmFormat)
    (quiet : ∀ c ∈ new, ∀ f, c ≠ .hwParams f) : CommitsOf device calls new false format := by
  rw [CommitsOf, commitsFrom_of_quiet device quiet]
  exact ⟨⟨[], nofun, rfl⟩, nofun⟩

theorem CommitsOf.append {calls new more : List HwCall} {committed : Bool} {format : Option SndPcmFormat}
    (first : CommitsOf device calls new false format) (rest : CommitsOf device (calls ++ new) more committed format) :
    CommitsOf device calls (new ++ more) committed format := by
  obtain ⟨⟨refused, nonzero, early⟩, formats⟩ := first
  obtain ⟨⟨refused', nonzero', late⟩, formats'⟩ := rest
  rw [List.length_append] at late formats'
  rw [CommitsOf, commitsFrom_append, List.map_append, early, late]
  refine ⟨⟨refused ++ refused', fun s member => ?_, by
    simp only [Bool.false_eq_true, ↓reduceIte, List.append_nil, List.append_assoc]⟩, fun c member => ?_⟩
  · rcases List.mem_append.mp member with early | late
    exacts [nonzero s early, nonzero' s late]
  · rcases List.mem_append.mp member with early | late
    exacts [formats c early, formats' c late]

theorem CommitsOf.append_quiet {calls new more : List HwCall} {committed : Bool} {format : Option SndPcmFormat}
    (first : CommitsOf device calls new committed format) (quiet : ∀ c ∈ more, ∀ f, c ≠ .hwParams f) :
    CommitsOf device calls (new ++ more) committed format := by
  rw [CommitsOf, commitsFrom_append, commitsFrom_of_quiet device quiet, List.append_nil]
  exact first

variable (device)

theorem whileZero_commit (format : Option SndPcmFormat) :
    ∀ (nears : List HwCall), (∀ c ∈ nears, ∀ f, c ≠ .hwParams f) → ∀ calls : List HwCall,
      ∃ new replies, (whileZero device (nears ++ [.hwParams format])).run calls = some (replies, calls ++ new) ∧
        CommitsOf device calls new replies.isSome format
  | [], _, calls => by
    simp only [List.nil_append, whileZero, StateT.run_bind, hwCall_run, Option.bind_eq_bind, Option.some_bind]
    by_cases taken : (device calls.length (.hwParams format)).status = 0
    · rw [if_neg (not_not.mpr taken)]
      exact ⟨[.hwParams format], _, rfl, ⟨[], nofun, by simp only [commitsFrom, taken, List.map_cons,
        List.map_nil, Option.map_some', Option.isSome_some, if_true, List.nil_append]⟩, by simp only [commitsFrom,
        List.mem_singleton, forall_eq]⟩
    · rw [if_pos taken]
      exact ⟨[.hwParams format], none, rfl, ⟨[_], List.forall_mem_singleton.mpr taken, rfl⟩,
        by simp only [commitsFrom, List.mem_singleton, forall_eq]⟩
  | c :: nears, quiet, calls => by
    simp only [List.cons_append, whileZero, StateT.run_bind, hwCall_run, Option.bind_eq_bind, Option.some_bind,
      List.append_eq]
    have single : CommitsOf device calls [c] false format :=
      .quiet format (List.forall_mem_singleton.mpr (quiet c (List.mem_cons_self _ _)))
    by_cases taken : (device calls.length c).status = 0
    · rw [if_neg (not_not.mpr taken)]
      obtain ⟨new, replies, run, commits⟩ :=
        whileZero_commit format nears (fun c' member => quiet c' (List.mem_cons_of_mem c member)) (calls ++ [c])
      refine ⟨[c] ++ new, replies.map (device calls.length c :: ·), ?_, ?_⟩
      · simp only [bind_pure_comp, pure_bind, StateT.run_map, run, List.append_assoc, Option.map_eq_map,
          Option.map_some']
      · rw [Option.isSome_map']
        exact single.append commits
    · rw [if_pos taken]
      exact ⟨[c], none, rfl, single⟩

theorem commitFallback_run (format : Option SndPcmFormat) (bufferSize periodSize : Nat) (calls : List HwCall) :
    ∃ new committed, (commitFallback device format bufferSize periodSize).run calls = some (committed, calls ++ new) ∧
      CommitsOf device calls new committed format := by
  obtain ⟨new₁, first, run₁, commits₁⟩ :=
    whileZero_commit device format [.setPeriodSizeNear periodSize] (quiet_cons nofun (List.forall_mem_nil _)) calls
  simp only [List.singleton_append] at run₁
  simp only [commitFallback, StateT.run_bind, run₁, Option.bind_eq_bind, Option.some_bind]
  by_cases took : first.isSome
  · rw [if_pos took]
    exact ⟨new₁, true, rfl, took ▸ commits₁⟩
  rw [if_neg took]
  rw [Bool.not_eq_true] at took
  rw [took] at commits₁
  obtain ⟨new₂, second, run₂, commits₂⟩ :=
    whileZero_commit device format [.setBufferSizeNear bufferSize] (quiet_cons nofun (List.forall_mem_nil _)) (calls ++ new₁)
  simp only [List.singleton_append] at run₂
  simp only [pure_bind, StateT.run_bind, run₂, Option.bind_eq_bind, Option.some_bind]
  by_cases took₂ : second.isSome
  · rw [if_pos took₂]
    exact ⟨new₁ ++ new₂, true, by rw [List.append_assoc]; rfl, commits₁.append (took₂ ▸ commits₂)⟩
  rw [if_neg took₂]
  rw [Bool.not_eq_true] at took₂
  rw [took₂] at commits₂
  obtain ⟨new₃, third, run₃, commits₃⟩ := whileZero_commit device format [] nofun (calls ++ new₁ ++ new₂)
  simp only [List.nil_append] at run₃
  simp only [StateT.run_bind, run₃, Option.bind_eq_bind, Option.some_bind, StateT.run_pure, Option.pure_def]
  exact ⟨new₁ ++ new₂ ++ new₃, third.isSome, by simp only [List.append_assoc],
    (commits₁.append commits₂).append (by rw [← List.append_assoc]; exact commits₃)⟩

theorem negotiateSizes_run (format : Option SndPcmFormat) (bufferSize periodSize : Nat) (calls : List HwCall) :
    ∃ new sizes, (negotiateSizes device format bufferSize periodSize).run calls = some (sizes, calls ++ new) ∧
      CommitsOf device calls new sizes.isSome format := by
  have limit : CommitsOf device calls [.setPeriodSizeMax (bufferSize / 3)] false format :=
    .quiet format (quiet_cons nofun (List.forall_mem_nil _))
  obtain ⟨new₁, first, run₁, commits₁⟩ := whileZero_commit device format
    [.setBufferSizeNear bufferSize, .setPeriodSizeNear periodSize] (quiet_cons nofun (quiet_cons nofun (List.forall_mem_nil _))) (calls ++ [.setPeriodSizeMax (bufferSize / 3)])
  simp only [List.cons_append, List.nil_append] at run₁
  simp only [negotiateSizes, StateT.run_bind, hwCall_run, run₁, Option.bind_eq_bind, Option.some_bind]
  cases first with
  | some replies =>
    exact ⟨[_] ++ new₁, some (writtenBack 0 replies, writtenBack 1 replies),
      by simp only [StateT.run_pure, Option.pure_def, List.append_assoc], limit.append commits₁⟩
  | none =>
  obtain ⟨new₂, second, run₂, commits₂⟩ := whileZero_commit device format
    [.setPeriodSizeNear periodSize, .setBufferSizeNear bufferSize] (quiet_cons nofun (quiet_cons nofun (List.forall_mem_nil _)))
    (calls ++ [.setPeriodSizeMax (bufferSize / 3)] ++ new₁)
  simp only [List.cons_append, List.nil_append] at run₂
  simp only [StateT.run_bind, run₂, Option.bind_eq_bind, Option.some_bind]
  have refused := limit.append commits₁
  cases second with
  | some replies =>
    exact ⟨[_] ++ new₁ ++ new₂, some (writtenBack 1 replies, writtenBack 0 replies),
      by simp only [StateT.run_pure, Option.pure_def, List.append_assoc],
      refused.append (by rw [← List.append_assoc]; exact commits₂)⟩
  | none =>
  obtain ⟨new₃, committed, run₃, commits₃⟩ :=
    commitFallback_run device format bufferSize periodSize (calls ++ [.setPeriodSizeMax (bufferSize / 3)] ++ new₁ ++ new₂)
  simp only [StateT.run_bind, run₃, Option.bind_eq_bind, Option.some_bind]
  have refused := (refused.append (by rw [← List.append_assoc]; exact commits₂)).append
    (by rw [← List.append_assoc, ← List.append_assoc]; exact commits₃)
  cases committed with
  | false => exact ⟨[_] ++ new₁ ++ new₂ ++ new₃, none, by simp only [List.append_assoc]; rfl, refused⟩
  | true =>
    simp only [if_true, StateT.run_bind, hwCall_run, Option.bind_eq_bind, Option.some_bind, StateT.run_pure,
      Option.pure_def, List.append_assoc]
    have reread : ∀ c ∈ [HwCall.getParams], ∀ f, c ≠ .hwParams f := quiet_cons nofun (List.forall_mem_nil _)
    exact ⟨_, _, rfl, by simpa only [List.append_assoc] using refused.append_quiet reread⟩

theorem negotiateChannels_run (wanted : Nat) (calls : List HwCall) :
    ∃ new channels, (negotiateChannels device wanted).run calls = some (channels, calls ++ new) ∧
      ∀ c ∈ new, ∀ f, c ≠ .hwParams f := by
  simp only [negotiateChannels, StateT.run_bind, hwCall_run, Option.bind_eq_bind, Option.some_bind]
  split <;>
  · simp only [StateT.run_bind, hwCall_run, Option.bind_eq_bind, Option.some_bind, StateT.run_pure, Option.pure_def,
      List.append_assoc, List.singleton_append]
    exact ⟨_, _, rfl, quiet_cons nofun (quiet_cons nofun (List.forall_mem_nil _))⟩

theorem formatFallback_run (numBits : AudioSampleFormat → Int) (passthrough : Bool) :
    ∀ (candidates : List AudioSampleFormat) (fmt : SndPcmFormat) (format : AudioSampleFormat)
      (current : Option SndPcmFormat) (calls : List HwCall),
      ∃ new result, (formatFallback device numBits passthrough candidates fmt format current).run calls =
        some (result, calls ++ new) ∧ (∀ c ∈ new, ∀ f, c ≠ .hwParams f) ∧
        (result.2.1 = format ∨ triesFormat passthrough result.2.1 = true)
  | [], fmt, format, current, calls => ⟨[], _, by rw [List.append_nil]; rfl, nofun, .inl rfl⟩
  | i :: candidates, fmt, format, current, calls => by
    simp only [formatFallback]
    by_cases skipped : i = .Bitstream ∨ i = .Max
    · rw [if_pos skipped]
      exact formatFallback_run numBits passthrough candidates fmt format current calls
    rw [if_neg skipped]
    by_cases other : passthrough = true ∧ i ≠ .S16BE ∧ i ≠ .S16LE
    · rw [if_pos other]
      exact formatFallback_run numBits passthrough candidates fmt format current calls
    rw [if_neg other]
    by_cases unknown : toAlsa i = .UNKNOWN
    · rw [if_pos unknown]
      exact formatFallback_run numBits passthrough candidates .UNKNOWN format current calls
    rw [if_neg unknown]
    simp only [StateT.run_bind, hwCall_run, Option.bind_eq_bind, Option.some_bind]
    split
    · obtain ⟨new, result, run, quiet, reported⟩ :=
        formatFallback_run numBits passthrough candidates .UNKNOWN format none (calls ++ [.setFormat (toAlsa i)])
      exact ⟨[.setFormat (toAlsa i)] ++ new, result, by rw [run, List.append_assoc],
        List.forall_mem_append.mpr ⟨quiet_cons nofun (List.forall_mem_nil _), quiet⟩, reported⟩
    simp only [StateT.run_bind, hwCall_run, Option.bind_eq_bind, Option.some_bind]
    split
    · obtain ⟨new, result, run, quiet, reported⟩ := formatFallback_run numBits passthrough candidates (toAlsa i) format
        (some (toAlsa i)) (calls ++ [.setFormat (toAlsa i)] ++ [.getSbits (toAlsa i)])
      exact ⟨[.setFormat (toAlsa i), .getSbits (toAlsa i)] ++ new, result, by rw [run, List.append_assoc, List.append_assoc]; rfl,
        List.forall_mem_append.mpr ⟨quiet_cons nofun (quiet_cons nofun (List.forall_mem_nil _)), quiet⟩, reported⟩
    · simp only [StateT.run_pure, Option.pure_def, List.append_assoc, List.singleton_append]
      exact ⟨_, _, rfl, quiet_cons nofun (quiet_cons nofun (List.forall_mem_nil _)),
        .inr (by simp [triesFormat, skipped, other])⟩

theorem chooseFormat_run (numBits : AudioSampleFormat → Int) (passthrough : Bool) (requested : AudioSampleFormat)
    (calls : List HwCall) :
    ∃ new result, (chooseFormat device numBits passthrough requested).run calls = some (result, calls ++ new) ∧
      (∀ c ∈ new, ∀ f, c ≠ .hwParams f) ∧ ∀ format current, result = some (format, current) →
        format = (requestedFormat requested).2 ∨ triesFormat passthrough format = true := by
  simp only [chooseFormat, StateT.run_bind, hwCall_run, Option.bind_eq_bind, Option.some_bind]
  split_ifs
  · obtain ⟨new, ⟨fmt, format, current⟩, run, quiet, reported⟩ := formatFallback_run device numBits passthrough
      formatsDescending (requestedFormat requested).1 (requestedFormat requested).2 none
      (calls ++ [.setFormat (requestedFormat requested).1])
    simp only [StateT.run_bind, run, Option.bind_eq_bind, Option.some_bind]
    have quiet' : ∀ c ∈ [HwCall.setFormat (requestedFormat requested).1] ++ new, ∀ f, c ≠ .hwParams f :=
      List.forall_mem_append.mpr ⟨quiet_cons nofun (List.forall_mem_nil _), quiet⟩
    split_ifs
    · exact ⟨_ ++ new, none, by rw [List.append_assoc]; rfl, quiet', nofun⟩
    · exact ⟨_ ++ new, _, by rw [List.append_assoc]; rfl, quiet', fun _ _ chosen => by cases chosen; exact reported⟩
  · exact ⟨[_], _, rfl, quiet_cons nofun (List.forall_mem_nil _), fun _ _ chosen => by cases chosen; exact .inl rfl⟩

theorem configure_run {minPeriodSize : Nat} {format : AudioSampleFormat} {sampleRate channels bufferSize periodSize : Nat}
    {calls log : List HwCall} {setup : HwSetup}
    (run : (configure device minPeriodSize format sampleRate channels bufferSize periodSize).run calls = some (setup, log)) :
    log = calls ++ [.framesToBytes] ∧ setup.outconfig.format = format ∧ setup.outconfig.sampleRate = sampleRate ∧
      setup.outconfig.channels = channels ∧ (minPeriodSize ≤ 2 ^ 32 → setup.PeriodFits minPeriodSize) := by
  simp only [configure, StateT.run_bind] at run
  by_cases short : periodSize < minPeriodSize
  · by_cases empty : periodSize = 0
    · subst empty
      simp only [short, decide_True, ↓reduceIte, fragmentsFor] at run
      change (none : Option (HwSetup × List HwCall)) = _ at run
      cases run
    simp only [short, decide_True, ↓reduceIte, fragmentsFor, empty, bind_pure_comp, pure_bind, StateT.run_map,
      hwCall_run, Option.map_eq_map, Option.map_some', Option.some.injEq, Prod.mk.injEq] at run
    obtain ⟨rfl, rfl⟩ := run
    have periods := ceil_periods minPeriodSize (Nat.pos_of_ne_zero empty)
    refine ⟨rfl, rfl, rfl, rfl, fun small => ?_⟩
    simp only [HwSetup.PeriodFits, if_true, Nat.mod_eq_of_lt (show periodSize < 2 ^ 32 by omega)]
    exact ⟨Nat.pos_of_ne_zero empty, short, Nat.dvd_mul_left _ _, periods⟩
  · simp only [short, decide_False, Bool.false_eq_true, ↓reduceIte, bind_pure_comp, pure_bind, one_mul,
      StateT.run_map, hwCall_run, Option.map_eq_map, Option.map_some', Option.some.injEq, Prod.mk.injEq] at run
    obtain ⟨rfl, rfl⟩ := run
    exact ⟨rfl, rfl, rfl, rfl, fun _ => by
      simp only [HwSetup.PeriodFits, short, decide_False, Bool.false_eq_true, if_false]
      exact ⟨Nat.not_lt.mp short, trivial⟩⟩

theorem negotiateSizes_commits {format : Option SndPcmFormat} {bufferSize periodSize : Nat} {calls log : List HwCall}
    {sizes : Option (Nat × Nat)}
    (run : (negotiateSizes device format bufferSize periodSize).run calls = some (sizes, log)) :
    ∃ new, log = calls ++ new ∧ CommitsOf device calls new sizes.isSome format := by
  obtain ⟨new, sizes', run', commits⟩ := negotiateSizes_run device format bufferSize periodSize calls
  rw [run', Option.some.injEq, Prod.mk.injEq] at run
  obtain ⟨rfl, rfl⟩ := run
  exact ⟨new, rfl, commits⟩

section FixedFormats

variable (numBits : AudioSampleFormat → Int) (passthrough : Bool) (accepts : SndPcmFormat → Bool)
  (sbits : SndPcmFormat → Int) (refuses : ∀ n f, (device n (.setFormat f)).status < 0 ↔ accepts f = false)
  (bits : ∀ n f, (device n (.getSbits f)).status = sbits f)

include refuses bits

theorem formatFallback_choice :
    ∀ (candidates : List AudioSampleFormat), (∀ i ∈ candidates, triesFormat passthrough i → toAlsa i ≠ .UNKNOWN) →
      ∀ (fmt : SndPcmFormat) (format : AudioSampleFormat) (current : Option SndPcmFormat) (calls : List HwCall),
      ∃ new, (formatFallback device numBits passthrough candidates fmt format current).run calls =
        some (fallbackChoice numBits accepts sbits (candidates.filter (triesFormat passthrough)) fmt format current,
          calls ++ new)
  | [], _, fmt, format, current, calls => ⟨[], by rw [List.append_nil]; rfl⟩
  | i :: candidates, named, fmt, format, current, calls => by
    have rest := formatFallback_choice candidates (fun j member => named j (List.mem_cons_of_mem i member))
    simp only [formatFallback]
    by_cases first : i = .Bitstream ∨ i = .Max
    · have skipped : ¬triesFormat passthrough i = true := by simp [triesFormat, first]
      rw [if_pos first, List.filter_cons_of_neg skipped]
      exact rest fmt format current calls
    rw [if_neg first]
    by_cases second : passthrough = true ∧ i ≠ .S16BE ∧ i ≠ .S16LE
    · have skipped : ¬triesFormat passthrough i = true := by simp [triesFormat, second]
      rw [if_pos second, List.filter_cons_of_neg skipped]
      exact rest fmt format current calls
    have tried : triesFormat passthrough i = true := by simp [triesFormat, first, second]
    rw [if_neg second, if_neg (named i (List.mem_cons_self _ _) tried), List.filter_cons_of_pos tried]
    simp only [StateT.run_bind, hwCall_run, Option.bind_eq_bind, Option.some_bind]
    by_cases refused : accepts (toAlsa i) = false
    · rw [if_pos ((refuses _ _).mpr refused), fallbackChoice_cons _ _ _ _ _ (by simp [takesFormat, refused]),
        if_neg (by simp [refused])]
      obtain ⟨new, run⟩ := rest .UNKNOWN format none (calls ++ [.setFormat (toAlsa i)])
      exact ⟨_ :: new, by rw [run, List.append_assoc]; rfl⟩
    have accepted : accepts (toAlsa i) = true := by simpa using refused
    rw [if_neg (fun below => refused ((refuses _ _).mp below))]
    simp only [StateT.run_bind, hwCall_run, Option.bind_eq_bind, Option.some_bind, bits]
    by_cases mismatch : sbits (toAlsa i) > 0 ∧ sbits (toAlsa i) ≠ numBits i
    · rw [if_pos mismatch, fallbackChoice_cons _ _ _ _ _ (by simp [takesFormat, accepted, mismatch]),
        if_pos accepted]
      obtain ⟨new, run⟩ := rest (toAlsa i) format (some (toAlsa i))
        (calls ++ [.setFormat (toAlsa i)] ++ [.getSbits (toAlsa i)])
      exact ⟨[_, _] ++ new, by rw [run, List.append_assoc, List.append_assoc]; rfl⟩
    · have takes : takesFormat numBits accepts sbits i = true := by
        simp only [takesFormat, accepted, Bool.true_and, Bool.not_eq_true', Bool.and_eq_false_iff,
          decide_eq_false_iff_not, not_not]
        exact (not_and_or.mp mismatch).imp id not_not.mp
      rw [if_neg mismatch]
      simp only [fallbackChoice, List.find?_cons_of_pos _ takes]
      exact ⟨[_, _], by rw [List.append_assoc]; rfl⟩

theorem chooseFormat_negotiated (requested : AudioSampleFormat) (calls : List HwCall) :
    ∃ new, (chooseFormat device numBits passthrough requested).run calls =
      some ((negotiatedFormat numBits accepts sbits passthrough requested).map fun chosen => (chosen.1, some chosen.2),
        calls ++ new) := by
  simp only [chooseFormat, StateT.run_bind, hwCall_run, Option.bind_eq_bind, Option.some_bind]
  by_cases taken : accepts (requestedFormat requested).1 = true
  · rw [if_neg (fun below => absurd ((refuses _ _).mp below) (by simp [taken])), negotiatedFormat, if_pos taken]
    exact ⟨[_], rfl⟩
  rw [if_pos ((refuses _ _).mpr (by simpa using taken)), negotiatedFormat, if_neg taken]
  obtain ⟨new, run⟩ := formatFallback_choice device numBits passthrough accepts sbits refuses bits formatsDescending
    (by cases passthrough <;> decide) (requestedFormat requested).1 (requestedFormat requested).2 none
    (calls ++ [.setFormat (requestedFormat requested).1])
  simp only [StateT.run_bind, run, Option.bind_eq_bind, Option.some_bind]
  have named : ∀ i ∈ fallbackFormats passthrough, toAlsa i ≠ .UNKNOWN := by cases passthrough <;> decide
  refine ⟨[.setFormat (requestedFormat requested).1] ++ new, ?_⟩
  rw [← List.append_assoc, ← fallbackFormats, fallbackChoice]
  cases found : (fallbackFormats passthrough).find? (takesFormat numBits accepts sbits) with
  | some i =>
    simp only [if_neg (named i (List.mem_of_find?_eq_some found))]
    rfl
  | none =>
    cases last : (fallbackFormats passthrough).getLast? with
    | none => exact absurd (List.getLast?_eq_none_iff.mp last) (by cases passthrough <;> decide)
    | some last' =>
      by_cases taken' : accepts (toAlsa last') = true
      · simp only [if_pos taken', if_neg (named last' (List.mem_of_getLast?_eq_some last))]
        rfl
      · simp only [if_neg taken', if_pos rfl]
        rfl

end FixedFormats

section ChannelRange

variable (lo hi : Nat) (least : ∀ n wanted, (device n (.setChannelsMin wanted)).status = 0 ↔ wanted ≤ hi)
  (raised : ∀ n wanted, wanted ≤ hi → (device n (.setChannelsMin wanted)).value = max lo wanted)
  (first : ∀ n least, (device n (.setChannelsFirst least)).value = least)
  (last : ∀ n, (device n .setChannelsLast).value = hi)

include least raised first last

theorem negotiateChannels_range (wanted : Nat) (calls : List HwCall) :
    ∃ new, (negotiateChannels device wanted).run calls = some (initializeHWChannels lo hi wanted, calls ++ new) := by
  simp only [negotiateChannels, StateT.run_bind, hwCall_run, Option.bind_eq_bind, Option.some_bind,
    initializeHWChannels]
  by_cases fits : wanted ≤ hi
  · rw [if_pos ((least _ _).mpr fits), if_pos fits]
    simp only [StateT.run_bind, hwCall_run, Option.bind_eq_bind, Option.some_bind, StateT.run_pure, Option.pure_def,
      first, raised _ _ fits]
    exact ⟨[_, _], by rw [List.append_assoc]; rfl⟩
  · rw [if_neg fun taken => fits ((least _ _).mp taken), if_neg fits]
    simp only [StateT.run_bind, hwCall_run, Option.bind_eq_bind, Option.some_bind, StateT.run_pure, Option.pure_def,
      last]
    exact ⟨[_, _], by rw [List.append_assoc]; rfl⟩

end ChannelRange

theorem initializeHW_parts (numBits : AudioSampleFormat → Int) (passthrough : Bool) (minPeriodSize : Nat)
    (inconfig : ALSAConfig) (calls log : List HwCall) (result : Option HwSetup)
    (run : (initializeHW device numBits passthrough minPeriodSize inconfig).run calls = some (result, log)) :
    ∃ new current, log = calls ++ new ∧ CommitsOf device calls new result.isSome current ∧
      ∀ setup, result = some setup →
        (∃ mid, (negotiateChannels device inconfig.channels).run
            (calls ++ [.hwParamsAny] ++ [.setAccess] ++ [.setRateNear inconfig.sampleRate]) =
              some (setup.outconfig.channels, mid) ∧
          ∃ later, (chooseFormat device numBits passthrough inconfig.format).run mid =
            some (some (setup.outconfig.format, current), later)) ∧
        (minPeriodSize ≤ 2 ^ 32 → setup.PeriodFits minPeriodSize) := by
  obtain ⟨new₁, channels, run₁, quiet₁⟩ := negotiateChannels_run device inconfig.channels
    (calls ++ [.hwParamsAny] ++ [.setAccess] ++ [.setRateNear inconfig.sampleRate])
  obtain ⟨new₂, chosen, run₂, quiet₂, -⟩ := chooseFormat_run device numBits passthrough inconfig.format
    (calls ++ [.hwParamsAny] ++ [.setAccess] ++ [.setRateNear inconfig.sampleRate] ++ new₁)
  simp only [initializeHW, StateT.run_bind, hwCall_run, Option.bind_eq_bind, Option.some_bind, run₁, run₂] at run
  have before : ∀ c ∈ [HwCall.hwParamsAny] ++ [.setAccess] ++ [.setRateNear inconfig.sampleRate] ++ new₁ ++ new₂,
      ∀ f, c ≠ .hwParams f :=
    List.forall_mem_append.mpr
      ⟨List.forall_mem_append.mpr ⟨quiet_cons nofun (quiet_cons nofun (quiet_cons nofun (List.forall_mem_nil _))), quiet₁⟩, quiet₂⟩
  cases chosen with
  | none =>
    simp only [StateT.run_pure, Option.pure_def, Option.some.injEq, Prod.mk.injEq] at run
    obtain ⟨rfl, rfl⟩ := run
    exact ⟨_, none, by simp only [List.append_assoc], .quiet none before, nofun⟩
  | some chosen =>
  obtain ⟨format, current⟩ := chosen
  simp only [StateT.run_bind, hwCall_run, Option.bind_eq_bind, Option.some_bind] at run
  obtain ⟨⟨sizes, mid⟩, run₃, run⟩ := Option.bind_eq_some.mp run
  obtain ⟨new₃, rfl, commits₃⟩ := negotiateSizes_commits device run₃
  have asked : CommitsOf device calls ([.hwParamsAny, .setAccess, .setRateNear inconfig.sampleRate] ++ new₁ ++ new₂ ++
      [.getBufferSizeMax, .getPeriodSizeMax]) false current :=
    .quiet current (List.forall_mem_append.mpr ⟨before, quiet_cons nofun (quiet_cons nofun (List.forall_mem_nil _))⟩)
  have sized := asked.append (by simpa only [List.append_assoc, List.cons_append, List.singleton_append,
    List.nil_append] using commits₃)
  cases sizes with
  | none =>
    simp only [StateT.run_pure, Option.pure_def, Option.some.injEq, Prod.mk.injEq] at run
    obtain ⟨rfl, rfl⟩ := run
    exact ⟨_, current, by simp only [List.append_assoc, List.cons_append, List.singleton_append, List.nil_append],
      sized, nofun⟩
  | some sizes =>
  obtain ⟨bufferSize, periodSize⟩ := sizes
  simp only [StateT.run_bind, Option.bind_eq_bind] at run
  obtain ⟨⟨setup, after⟩, run₄, run⟩ := Option.bind_eq_some.mp run
  simp only [StateT.run_pure, Option.pure_def, Option.some.injEq, Prod.mk.injEq] at run
  obtain ⟨rfl, rfl⟩ := run
  obtain ⟨rfl, formatted, -, counted, fits⟩ := configure_run device run₄
  refine ⟨_, current, by simp only [List.append_assoc, List.cons_append, List.singleton_append, List.nil_append],
    sized.append_quiet (show ∀ c ∈ [HwCall.framesToBytes], ∀ f, c ≠ .hwParams f from quiet_cons nofun (List.forall_mem_nil _)), fun setup' same => ?_⟩
  cases same
  exact ⟨⟨_, counted ▸ run₁, _, formatted ▸ run₂⟩, fits⟩

theorem initializeHW_returned {numBits : AudioSampleFormat → Int} {passthrough : Bool} {minPeriodSize : Nat}
    {inconfig : ALSAConfig} {calls : List HwCall} {result : Option HwSetup}
    (returned : ((initializeHW device numBits passthrough minPeriodSize inconfig).run calls).map Prod.fst = some result) :
    ∃ log, (initializeHW device numBits passthrough minPeriodSize inconfig).run calls = some (result, log) := by
  obtain ⟨⟨result', log⟩, run, rfl⟩ := Option.map_eq_some'.mp returned
  exact ⟨log, run⟩

theorem initializeHW_format_tried {numBits : AudioSampleFormat → Int} {passthrough : Bool} {minPeriodSize : Nat}
    {inconfig : ALSAConfig} {calls log : List HwCall} {setup : HwSetup}
    (run : (initializeHW device numBits passthrough minPeriodSize inconfig).run calls = some (some setup, log)) :
    setup.outconfig.format = (requestedFormat inconfig.format).2 ∨ triesFormat passthrough setup.outconfig.format := by
  obtain ⟨_, current, _, _, parts⟩ := initializeHW_parts device numBits passthrough minPeriodSize inconfig calls _ _ run
  obtain ⟨⟨mid, -, later, chosen⟩, -⟩ := parts setup rfl
  obtain ⟨_, _, run', -, reported⟩ := chooseFormat_run device numBits passthrough inconfig.format mid
  rw [run', Option.some.injEq, Prod.mk.injEq] at chosen
  exact reported _ _ chosen.1

/-- A stereo-to-octo 48 kHz device that takes `S16_LE` only, with 24 significant bits. -/
def narrowDevice : HwDevice := fun _ c =>
  match c with
  | .setRateNear _ => ⟨0, 48000, 0⟩
  | .setChannelsMin wanted => if wanted ≤ 8 then ⟨0, max 2 wanted, 0⟩ else ⟨-22, 0, 0⟩
  | .setChannelsFirst least => ⟨0, least, 0⟩
  | .setChannelsLast => ⟨0, 8, 0⟩
  | .setFormat format => if format = .S16_LE then ⟨0, 0, 0⟩ else ⟨-22, 0, 0⟩
  | .getSbits _ => ⟨24, 0, 0⟩
  | .getBufferSizeMax => ⟨0, 65536, 0⟩
  | .getPeriodSizeMax => ⟨0, 16384, 0⟩
  | .setBufferSizeNear size => ⟨0, size, 0⟩
  | .setPeriodSizeNear _ => ⟨0, 100, 0⟩
  | .framesToBytes => ⟨0, 4, 0⟩
  | _ => ⟨0, 0, 0⟩

/-- On every device, when `InitializeHW` returns `true`, the period it reports is at least
`AE_MIN_PERIODSIZE`, a whole number of device periods when it fragments. -/
theorem initializeHW_reports_whole_periods (numBits : AudioSampleFormat → Int) (passthrough : Bool)
    (minPeriodSize : Nat) (small : minPeriodSize ≤ 2 ^ 32) (inconfig : ALSAConfig) (calls : List HwCall)
    (setup : HwSetup)
    (returned : ((initializeHW device numBits passthrough minPeriodSize inconfig).run calls).map Prod.fst =
      some (some setup)) :
    setup.PeriodFits minPeriodSize := by
  obtain ⟨log, run⟩ := initializeHW_returned device returned
  obtain ⟨_, _, _, _, parts⟩ := initializeHW_parts device numBits passthrough minPeriodSize inconfig calls log _ run
  exact (parts setup rfl).2 small

/-- On `narrowDevice` the stereo float request is reported with three periods of 100 frames, 300
frames against an `AE_MIN_PERIODSIZE` of 256. -/
theorem initializeHW_reports_whole_periods_narrow :
    (256 : Nat) ≤ 2 ^ 32 ∧
      ((initializeHW narrowDevice (fun _ => 16) false 256 ⟨.Float, 48000, 2, 0, 0⟩).run []).map Prod.fst =
        some (some ⟨⟨.Float, 48000, 2, 300, 4⟩, true, 100, 9600⟩) ∧
      HwSetup.PeriodFits 256 ⟨⟨.Float, 48000, 2, 300, 4⟩, true, 100, 9600⟩ :=
  ⟨by decide, rfl, initializeHW_reports_whole_periods narrowDevice (fun _ => 16) false 256 (by decide)
    ⟨.Float, 48000, 2, 0, 0⟩ [] _ rfl⟩

theorem initializeHW_reports_channels (numBits : AudioSampleFormat → Int) (passthrough : Bool) (minPeriodSize : Nat)
    (lo hi : Nat) (least : ∀ n wanted, (device n (.setChannelsMin wanted)).status = 0 ↔ wanted ≤ hi)
    (raised : ∀ n wanted, wanted ≤ hi → (device n (.setChannelsMin wanted)).value = max lo wanted)
    (first : ∀ n least, (device n (.setChannelsFirst least)).value = least)
    (last : ∀ n, (device n .setChannelsLast).value = hi) (inconfig : ALSAConfig) (calls : List HwCall)
    (setup : HwSetup)
    (returned : ((initializeHW device numBits passthrough minPeriodSize inconfig).run calls).map Prod.fst =
      some (some setup)) :
    setup.outconfig.channels = initializeHWChannels lo hi inconfig.channels := by
  obtain ⟨log, run⟩ := initializeHW_returned device returned
  obtain ⟨_, _, _, _, parts⟩ := initializeHW_parts device numBits passthrough minPeriodSize inconfig calls _ _ run
  obtain ⟨⟨_, counted, -⟩, -⟩ := parts setup rfl
  obtain ⟨_, ranged⟩ := negotiateChannels_range device lo hi least raised first last inconfig.channels _
  rw [ranged, Option.some.injEq, Prod.mk.injEq] at counted
  exact counted.1.symm

/-- On every device that allows only `n > ALSA_MAX_CHANNELS + 1` channels, whenever `InitializeHW`
returns `true` it reports `n`, and `GetChannelLayout` with no map reads past the legacy map. -/
theorem getChannelLayout_reads_past_legacy_map (numBits : AudioSampleFormat → Int) (passthrough : Bool)
    (minPeriodSize : Nat) (bestMatch : BestMatch) (format : AudioFormat) (pcm : format.sampleFormat ≠ .Bitstream)
    (n : Nat) (beyond : alsaMaxChannels + 1 < n)
    (least : ∀ k wanted, (device k (.setChannelsMin wanted)).status = 0 ↔ wanted ≤ n)
    (raised : ∀ k wanted, wanted ≤ n → (device k (.setChannelsMin wanted)).value = n)
    (first : ∀ k least, (device k (.setChannelsFirst least)).value = least)
    (last : ∀ k, (device k .setChannelsLast).value = n) (inconfig : ALSAConfig) (calls : List HwCall)
    (setup : HwSetup)
    (returned : ((initializeHW device numBits passthrough minPeriodSize inconfig).run calls).map Prod.fst =
      some (some setup)) :
    setup.outconfig.channels = n ∧ getChannelLayout bestMatch format setup.outconfig.channels none = none := by
  have reported : setup.outconfig.channels = n := by
    rw [initializeHW_reports_channels device numBits passthrough minPeriodSize n n least
      (fun k wanted fits => (raised k wanted fits).trans (max_eq_left fits).symm) first last inconfig calls setup
      returned, initializeHWChannels]
    split <;> omega
  refine ⟨reported, ?_⟩
  rw [reported, getChannelLayout, if_neg pcm]
  exact (getChannelLayoutLegacy_of_count format pcm n).trans (if_neg (Nat.not_le_of_lt beyond))

/-- `narrowDevice` with only 18 channels. -/
def eighteenChannelDevice : HwDevice := fun k c =>
  match c with
  | .setChannelsMin wanted => if wanted ≤ 18 then ⟨0, 18, 0⟩ else ⟨-22, 0, 0⟩
  | .setChannelsLast => ⟨0, 18, 0⟩
  | c => narrowDevice k c

/-- A stereo stream on a device with only 18 channels and no channel map. -/
theorem getChannelLayout_reads_past_legacy_map_stereo :
    let format : AudioFormat := ⟨.S16NE, [.FL, .FR], .other⟩
    let setup : HwSetup := ⟨⟨.S16NE, 48000, 18, 300, 4⟩, true, 100, 9600⟩
    (getChannelLayoutLegacy format 2 8).map List.length = some 2 ∧
      format.sampleFormat ≠ .Bitstream ∧ alsaMaxChannels + 1 < 18 ∧
      (∀ k wanted, (eighteenChannelDevice k (.setChannelsMin wanted)).status = 0 ↔ wanted ≤ 18) ∧
      (∀ k wanted, wanted ≤ 18 → (eighteenChannelDevice k (.setChannelsMin wanted)).value = 18) ∧
      (∀ k least, (eighteenChannelDevice k (.setChannelsFirst least)).value = least) ∧
      (∀ k, (eighteenChannelDevice k .setChannelsLast).value = 18) ∧
      ((initializeHW eighteenChannelDevice (fun _ => 16) false 256 ⟨.S16NE, 48000, 2, 0, 0⟩).run []).map Prod.fst =
        some (some setup) ∧
      setup.outconfig.channels = 18 ∧ getChannelLayout (fun _ _ => (0, 0)) format setup.outconfig.channels none = none := by
  intro format setup
  have least : ∀ k wanted, (eighteenChannelDevice k (.setChannelsMin wanted)).status = 0 ↔ wanted ≤ 18 :=
    fun _ wanted => by by_cases fits : wanted ≤ 18 <;> simp [eighteenChannelDevice, fits]
  have raised : ∀ k wanted, wanted ≤ 18 → (eighteenChannelDevice k (.setChannelsMin wanted)).value = 18 :=
    fun _ _ fits => by simp [eighteenChannelDevice, fits]
  exact ⟨by decide, by decide, by decide, least, raised, fun _ _ => rfl, fun _ => rfl, rfl,
    getChannelLayout_reads_past_legacy_map eighteenChannelDevice (fun _ => 16) false 256 (fun _ _ => (0, 0)) format
      (by decide) 18 (by decide) least raised (fun _ _ => rfl) (fun _ => rfl) ⟨.S16NE, 48000, 2, 0, 0⟩ [] setup rfl⟩

end Commits

end AlsaPassthroughSink
