import Coro.Passthrough.InitializeHW

/-!
How `AlsaPassthroughSink` opens an ALSA device by name: `openAudioDevice`, `TryDeviceWithParams`,
`TryDevice`, `AppendParams` and `GetParamFromName`. A `std::string` is its list of characters,
and a handle is named by the name it was opened with, `none` for `NULL`.
-/

namespace AlsaPassthroughSink

/-- `std::string::find(pattern)`: the first position at which `pattern` starts, `none` for
`npos`. -/
def find (s pattern : List Char) : Option Nat :=
  if pattern.isPrefixOf s then some 0
  else
    match s with
    | [] => none
    | _ :: rest => (find rest pattern).map (· + 1)

/-- `std::string::find_first_of(chars, pos)`. -/
def findFirstOf (s chars : List Char) (pos : Nat) : Option Nat :=
  ((s.drop pos).findIdx? (· ∈ chars)).map (· + pos)

/-- The characters that end a value in `GetParamFromName`: `,`, `'` and `"`. -/
def valueEnds : List Char := [',', Char.ofNat 39, Char.ofNat 34]

/-- `GetParamFromName(name, param)`: the value of the first `param=` in `name`, up to the next
character of `valueEnds` or the end; empty when there is no `param=`. -/
def getParamFromName (name param : List Char) : List Char :=
  match find name (param ++ ['=']) with
  | none => []
  | some parPos =>
    let parPos := parPos + param.length + 1
    match findFirstOf name valueEnds parPos with
    | some stop => (name.drop parPos).take (stop - parPos)
    | none => name.drop parPos

/-- `AppendParams(device, params)`: the parameters after a `:`, or after a `,` when the name has
a `:` already. -/
def appendParams (device params : List Char) : List Char :=
  device ++ (if find device [':'] = none then ':' else ',') :: params

/-- The `AudioDeviceType`s `AEDeviceTypeFromName` returns. -/
inductive AudioDeviceType
  | Pcm | Hdmi | Spdif
deriving DecidableEq, Repr

/-- `AEDeviceTypeFromName(name)`. -/
def aeDeviceTypeFromName (name : List Char) : AudioDeviceType :=
  if name.take 4 = "hdmi".toList then .Hdmi
  else if name.take 6 = "iec958".toList ∨ name.take 5 = "spdif".toList then .Spdif
  else .Pcm

/-- The `surroundXX` devices the `switch (channels)` of `openAudioDevice` tries: from the case of
`channels`, each case falls through to those with more channels. -/
def surroundNames : Int → List (List Char)
  | 3 | 4 => ["surround40".toList, "surround51".toList, "surround71".toList]
  | 5 | 6 => ["surround51".toList, "surround71".toList]
  | 7 | 8 => ["surround71".toList]
  | _ => []

/-- `sysdefault` and `default` with the parameters of `openName`, tried when it names no device or
a device number starting with `0`; `,DEV=0` is dropped from their names. -/
def defaultNames (openName : List Char) : List (List Char) :=
  match find openName ",DEV=".toList with
  | none => ["sysdefault".toList ++ openName, "default".toList ++ openName]
  | some devPos =>
    if devPos + 5 < openName.length ∧ openName[devPos + 5]? = some '0' then
      let nameWithoutDev := openName.take devPos ++ openName.drop (devPos + 6)
      ["sysdefault".toList ++ nameWithoutDev, "default".toList ++ nameWithoutDev]
    else []

/-- The names `openAudioDevice(name, params, channels, …)` tries, in order. -/
def openNames (name : List Char) (channels : Int) : List (List Char) :=
  if name = ['@'] ∨ name.take 2 = ['@', ':'] then
    let openName := name.drop 1
    (surroundNames channels).map (· ++ openName) ++ defaultNames openName ++ ["front".toList ++ openName]
  else [name]

/-- An alsa-lib call on a PCM device, of the device opening and of `enumerateDevice`, with the
handle it passes (the name it was opened with, `none` for `NULL`) and its other arguments. -/
inductive ProbeCall
  | openLconf (name : List Char)
  | close (pcm : Option (List Char))
  | info (pcm : Option (List Char))
  | cardGetName (card : Int)
  | hwParamsAny (pcm : Option (List Char))
  | testRate (pcm : Option (List Char)) (rate : Nat)
  | testChannels (pcm : Option (List Char)) (channels : Nat)
  | queryChmaps (pcm : Option (List Char))
  | testFormat (pcm : Option (List Char)) (format : SndPcmFormat)
deriving DecidableEq, Repr

/-- The device's answer to a call: its status, and what the call fills in. -/
structure ProbeReply where
  status : Int
  card : Int
  name : List Char
  chmaps : Option (List ChmapQuery)

/-- The device: its answer to the `n`-th call of a run. -/
abbrev ProbeDevice := Nat → ProbeCall → ProbeReply

/-- A run on the device: from the calls made before it, oldest first, its result and the calls it
makes. The device answers a call by its number in the whole log. -/
def ProbeRun (α : Type) : Type := List ProbeCall → α × List ProbeCall

instance : Monad ProbeRun where
  pure a := fun _ => (a, [])
  bind x f := fun calls =>
    let (a, new) := x calls
    let (b, more) := f a (calls ++ new)
    (b, new ++ more)

@[simp] theorem ProbeRun.pure_apply {α : Type} (a : α) (calls : List ProbeCall) :
    (pure a : ProbeRun α) calls = (a, []) := rfl

theorem ProbeRun.bind_apply {α β : Type} (x : ProbeRun α) (f : α → ProbeRun β) (calls : List ProbeCall) :
    (x >>= f) calls =
      ((f (x calls).1 (calls ++ (x calls).2)).1, (x calls).2 ++ (f (x calls).1 (calls ++ (x calls).2)).2) := rfl

@[simp] theorem ProbeRun.map_apply {α β : Type} (f : α → β) (x : ProbeRun α) (calls : List ProbeCall) :
    (f <$> x) calls = (f (x calls).1, (x calls).2) := by
  show (x >>= fun a => pure (f a)) calls = _
  simp [ProbeRun.bind_apply]

instance : LawfulMonad ProbeRun := LawfulMonad.mk' ProbeRun
  (fun x => funext fun calls => by
    show (x >>= fun a => pure (id a)) calls = x calls
    simp [ProbeRun.bind_apply])
  (fun a f => funext fun calls => by simp [ProbeRun.bind_apply])
  (fun x f g => funext fun calls => by simp [ProbeRun.bind_apply])

/-- Whatever the device answers, from any log, the result of a run of `x` satisfies `post`. -/
def Returns {α : Type} (x : ProbeRun α) (post : α → Prop) : Prop := ∀ calls, post (x calls).1

theorem Returns.pure {α : Type} {a : α} {post : α → Prop} (holds : post a) : Returns (Pure.pure a) post :=
  fun _ => holds

theorem Returns.bind {α β : Type} {x : ProbeRun α} {f : α → ProbeRun β} {mid : α → Prop} {post : β → Prop}
    (first : Returns x mid) (next : ∀ a, mid a → Returns (f a) post) : Returns (x >>= f) post := fun calls => by
  rw [ProbeRun.bind_apply]
  exact next _ (first calls) _

theorem Returns.any {α : Type} (x : ProbeRun α) : Returns x fun _ => True := fun _ => trivial

section Opening

variable (device : ProbeDevice)

/-- Make one call and read the device's answer. -/
def probeCall (c : ProbeCall) : ProbeRun ProbeReply := fun calls => (device calls.length c, [c])

/-- `snd_pcm_open_lconf(pcmp, name, …) == 0`, and the handle: open on `name` when the device
answers `0`, `NULL` otherwise. -/
def openLconf (name : List Char) : ProbeRun (Bool × Option (List Char)) := do
  let err := (← probeCall device (.openLconf name)).status
  return if err = 0 then (true, some name) else (false, none)

/-- `TryDevice(name, pcmp, lconf)`: whether `*pcmp` is open on `name` after it, and `*pcmp`. A
handle already open on `name` is kept; one open on another name is closed first. -/
def tryDevice (name : List Char) : Option (List Char) → ProbeRun (Bool × Option (List Char))
  | some opened =>
    if name = opened then pure (true, some opened)
    else do
      let _ ← probeCall device (.close (some opened))
      openLconf device name
  | none => openLconf device name

/-- `TryDeviceWithParams(name, params, pcmp, lconf)`: the name with the parameters, then without. -/
def tryDeviceWithParams (name params : List Char) (pcm : Option (List Char)) : ProbeRun (Bool × Option (List Char)) :=
  if params = [] then tryDevice device name pcm
  else do
    let tried ← tryDevice device (appendParams name params) pcm
    if tried.1 then pure tried else tryDevice device name tried.2

/-- `TryDeviceWithParams` on each of `names` in turn, up to the first that opens. -/
def tryEach (params : List Char) : List (List Char) → Option (List Char) → ProbeRun (Bool × Option (List Char))
  | [], pcm => pure (false, pcm)
  | name :: names, pcm => do
    let tried ← tryDeviceWithParams device name params pcm
    if tried.1 then pure tried else tryEach params names tried.2

/-- `openAudioDevice(name, params, channels, pcmp, lconf)`. -/
def openAudioDevice (name params : List Char) (channels : Int) (pcm : Option (List Char)) :
    ProbeRun (Bool × Option (List Char)) :=
  tryEach device params (openNames name channels) pcm

@[simp] theorem probeCall_bind_apply {α : Type} (c : ProbeCall) (f : ProbeReply → ProbeRun α) (calls : List ProbeCall) :
    (probeCall device c >>= f) calls =
      ((f (device calls.length c) (calls ++ [c])).1, c :: (f (device calls.length c) (calls ++ [c])).2) := rfl

/-! ### What opening comes to

`openSpec` is what the nested `TryDevice` calls come to: only the first `TryDevice` of a run can
find a handle open, since every later one follows a failed open, which leaves `NULL`. -/

/-- The names `TryDeviceWithParams(name, params, …)` opens for each of `names`, in order. -/
def attempts (params : List Char) (names : List (List Char)) : List (List Char) :=
  names.flatMap fun name => if params = [] then [name] else [appendParams name params, name]

/-- Open `names` in turn from a `NULL` handle, up to the first the device accepts: the handle. -/
def openFirst : List (List Char) → ProbeRun (Option (List Char))
  | [] => pure none
  | name :: names => do
    let err := (← probeCall device (.openLconf name)).status
    if err = 0 then pure (some name) else openFirst names

/-- Open `names` from the handle `pcm`: a handle open on the first name is kept, any other is
closed, and the names are opened in turn. -/
def openSpec : Option (List Char) → List (List Char) → ProbeRun (Option (List Char))
  | some opened, name :: names =>
    if name = opened then pure (some opened)
    else do
      let _ ← probeCall device (.close (some opened))
      openFirst device (name :: names)
  | some opened, [] => pure (some opened)
  | none, names => openFirst device names

/-- What `TryDevice` and its callers return with the handle they leave: whether it is open, and
the handle. -/
def openResult (pcm : Option (List Char)) : Bool × Option (List Char) := (pcm.isSome, pcm)

theorem attempts_cons (params name : List Char) (names : List (List Char)) :
    attempts params (name :: names) = attempts params [name] ++ attempts params names := by
  simp [attempts]

theorem openFirst_append (names more : List (List Char)) :
    openFirst device (names ++ more) =
      openFirst device names >>= fun opened => if opened.isSome then pure opened else openFirst device more := by
  induction names with
  | nil => rw [List.nil_append, openFirst, pure_bind]; rfl
  | cons name names ih =>
    simp only [List.cons_append, openFirst, bind_assoc]
    refine bind_congr fun err => ?_
    split
    · rw [pure_bind]; rfl
    · exact ih

theorem openSpec_append (pcm : Option (List Char)) (names more : List (List Char)) (some_name : names ≠ []) :
    openSpec device pcm (names ++ more) =
      openSpec device pcm names >>= fun opened => if opened.isSome then pure opened else openFirst device more := by
  match pcm, names, some_name with
  | some opened, name :: names, _ =>
    simp only [List.cons_append, openSpec]
    split
    · rw [pure_bind]; rfl
    · rw [bind_assoc, ← List.cons_append, openFirst_append]
  | none, names, _ => exact openFirst_append device names more

theorem openLconf_eq (name : List Char) : openLconf device name = openResult <$> openFirst device [name] := by
  simp only [openLconf, openFirst, map_bind]
  refine bind_congr fun err => ?_
  split <;> rfl

theorem tryDevice_eq (name : List Char) (pcm : Option (List Char)) :
    tryDevice device name pcm = openResult <$> openSpec device pcm [name] := by
  cases pcm with
  | none => exact openLconf_eq device name
  | some opened =>
    simp only [tryDevice, openSpec]
    split
    · rfl
    · rw [map_bind, openLconf_eq]

theorem openResult_bind_continue (x : ProbeRun (Option (List Char))) (next : Option (List Char) → ProbeRun (Bool × Option (List Char)))
    (more : List (List Char)) (from_null : next none = openResult <$> openFirst device more) :
    (openResult <$> x >>= fun tried => if tried.1 then pure tried else next tried.2) =
      openResult <$> (x >>= fun opened => if opened.isSome then pure opened else openFirst device more) := by
  rw [bind_map_left, map_bind]
  refine bind_congr fun opened => ?_
  cases opened
  · exact from_null
  · rfl

theorem tryDeviceWithParams_eq (name params : List Char) (pcm : Option (List Char)) :
    tryDeviceWithParams device name params pcm = openResult <$> openSpec device pcm (attempts params [name]) := by
  by_cases plain : params = []
  · simp only [tryDeviceWithParams, attempts, if_pos plain, List.flatMap_cons, List.flatMap_nil, List.append_nil]
    exact tryDevice_eq device name pcm
  · simp only [tryDeviceWithParams, attempts, if_neg plain, List.flatMap_cons, List.flatMap_nil, List.append_nil]
    rw [tryDevice_eq, show [appendParams name params, name] = [appendParams name params] ++ [name] from rfl,
      openSpec_append device pcm [appendParams name params] [name] (List.cons_ne_nil _ _)]
    exact openResult_bind_continue device _ _ _ (tryDevice_eq device name none)

theorem tryEach_none (params : List Char) (names : List (List Char)) :
    tryEach device params names none = openResult <$> openFirst device (attempts params names) := by
  induction names with
  | nil => rfl
  | cons name names ih =>
    rw [tryEach, tryDeviceWithParams_eq, attempts_cons params name names, openFirst_append]
    exact openResult_bind_continue device _ _ _ ih

theorem tryEach_cons (params name : List Char) (names : List (List Char)) (pcm : Option (List Char)) :
    tryEach device params (name :: names) pcm = openResult <$> openSpec device pcm (attempts params (name :: names)) := by
  rw [tryEach, tryDeviceWithParams_eq, attempts_cons params name names,
    openSpec_append device pcm _ _ (by simp only [attempts]; split <;> simp)]
  exact openResult_bind_continue device _ _ _ (tryEach_none device params names)

theorem openNames_ne_nil (name : List Char) (channels : Int) : openNames name channels ≠ [] := by
  unfold openNames
  split <;> simp

/-- `openAudioDevice` opens its names in turn up to the first the device accepts; the handle it is
given is kept only when open on the first name, and is otherwise closed once, first. -/
theorem openAudioDevice_opens_in_order (name params : List Char) (channels : Int) (pcm : Option (List Char)) :
    openAudioDevice device name params channels pcm =
      openResult <$> openSpec device pcm (attempts params (openNames name channels)) := by
  obtain ⟨first, rest, names⟩ := List.exists_cons_of_ne_nil (openNames_ne_nil name channels)
  rw [openAudioDevice, names]
  exact tryEach_cons device params first rest pcm

/-! ### Handles -/

/-- The handles open after one call, `none` when it closes or passes a handle that is not open. -/
def heldStep (reply : ProbeReply) (held : List (List Char)) : ProbeCall → Option (List (List Char))
  | .openLconf name => some (if reply.status = 0 then name :: held else held)
  | .close (some name) => if name ∈ held then some (held.erase name) else none
  | .close none => none
  | .cardGetName _ => some held
  | .info pcm | .hwParamsAny pcm | .testRate pcm _ | .testChannels pcm _ | .queryChmaps pcm | .testFormat pcm _ =>
    if pcm.any fun name => name ∈ held then some held else none

/-- The handles open after the calls of `log`, the first of which is call number `n`, when those of
`held` are open before; `none` once a call closes or passes a handle that is not open. -/
def heldAfter : Nat → List (List Char) → List ProbeCall → Option (List (List Char))
  | _, held, [] => some held
  | n, held, c :: log => (heldStep (device n c) held c).bind fun held => heldAfter (n + 1) held log

theorem openFirst_held (names : List (List Char)) (calls : List ProbeCall) :
    heldAfter device calls.length [] (openFirst device names calls).2 = some (openFirst device names calls).1.toList := by
  induction names generalizing calls with
  | nil => rfl
  | cons name names ih =>
    rw [openFirst, probeCall_bind_apply]
    by_cases accepted : (device calls.length (.openLconf name)).status = 0
    · simp [if_pos accepted, heldAfter, heldStep, accepted]
    · have rest := ih (calls ++ [.openLconf name])
      rw [List.length_append, List.length_singleton] at rest
      simpa [if_neg accepted, heldAfter, heldStep, accepted] using rest

theorem openSpec_held (pcm : Option (List Char)) (names : List (List Char)) (calls : List ProbeCall) :
    heldAfter device calls.length pcm.toList (openSpec device pcm names calls).2 =
      some (openSpec device pcm names calls).1.toList := by
  match pcm, names with
  | some opened, name :: names =>
    rw [openSpec]
    split
    · rfl
    · have reopened := openFirst_held device (name :: names) (calls ++ [.close (some opened)])
      rw [List.length_append, List.length_singleton] at reopened
      rw [probeCall_bind_apply, heldAfter]
      simpa [heldStep] using reopened
  | some opened, [] => rfl
  | none, names => exact openFirst_held device names calls

theorem openAudioDevice_held (name params : List Char) (channels : Int) (pcm : Option (List Char))
    (calls : List ProbeCall) :
    heldAfter device calls.length pcm.toList (openAudioDevice device name params channels pcm calls).2 =
        some (openAudioDevice device name params channels pcm calls).1.2.toList ∧
      (openAudioDevice device name params channels pcm calls).1.1 =
        (openAudioDevice device name params channels pcm calls).1.2.isSome := by
  obtain ⟨first, rest, names⟩ := List.exists_cons_of_ne_nil (openNames_ne_nil name channels)
  rw [openAudioDevice, names, tryEach_cons, ProbeRun.map_apply]
  exact ⟨openSpec_held device pcm (attempts params (first :: rest)) calls, rfl⟩

/-- On every device, `openAudioDevice` closes only open handles and leaves open exactly the handle
in `*pcmp`, open exactly when it returns true. -/
theorem openAudioDevice_holds_one_handle (name params : List Char) (channels : Int) (pcm : Option (List Char))
    (calls : List ProbeCall) :
    ∃ opened new, openAudioDevice device name params channels pcm calls = ((opened.isSome, opened), new) ∧
      heldAfter device calls.length pcm.toList new = some opened.toList := by
  obtain ⟨held, returned⟩ := openAudioDevice_held device name params channels pcm calls
  exact ⟨_, _, by rw [← returned], held⟩

end Opening

/-! ### Reading a parameter back -/

theorem find_of_first (pattern : List Char) : ∀ (k : Nat) (s : List Char), pattern <+: s.drop k →
    (∀ j < k, ¬ pattern <+: s.drop j) → find s pattern = some k
  | 0, s, starts, _ => by
    unfold find
    rw [if_pos (List.isPrefixOf_iff_prefix.mpr (by simpa using starts))]
  | k + 1, [], starts, before => absurd starts (before 0 (Nat.succ_pos k))
  | k + 1, c :: s, starts, before => by
    unfold find
    rw [if_neg (by simpa [List.isPrefixOf_iff_prefix] using before 0 (Nat.succ_pos k))]
    dsimp only
    rw [find_of_first pattern k s starts fun j lt => before (j + 1) (Nat.succ_lt_succ lt)]
    rfl

/-- `GetParamFromName(pre ++ param ++ "=" ++ value ++ rest, param)` is `value` when `param=` first
occurs there and `value` ends at `rest`. -/
theorem getParamFromName_reads_value (pre param value rest : List Char)
    (first : ∀ j < pre.length, ¬ (param ++ ['=']) <+: (pre ++ param ++ '=' :: value ++ rest).drop j)
    (plain : ∀ c ∈ value, c ∉ valueEnds) (ends : ∀ c ∈ rest.head?, c ∈ valueEnds) :
    getParamFromName (pre ++ param ++ '=' :: value ++ rest) param = value := by
  have found : find (pre ++ param ++ '=' :: value ++ rest) (param ++ ['=']) = some pre.length :=
    find_of_first _ _ _ (by simp [List.drop_append_eq_append_drop]) first
  have start : (pre ++ param ++ '=' :: value ++ rest).drop (pre.length + param.length + 1) = value ++ rest := by
    rw [show pre ++ param ++ '=' :: value ++ rest = (pre ++ param ++ ['=']) ++ (value ++ rest) by simp]
    exact List.drop_left' (by simp [Nat.add_assoc])
  have inside : value.findIdx? (· ∈ valueEnds) = none :=
    List.findIdx?_eq_none_iff.mpr fun c mem => by simpa using plain c mem
  rw [getParamFromName, found]
  dsimp only
  rw [findFirstOf, start, List.findIdx?_append, inside]
  cases rest with
  | nil => simp
  | cons c more =>
    rw [List.findIdx?_cons, if_pos (by simpa using ends c rfl)]
    simp

/-- `GetParamFromName` matches `param=` anywhere in the name: the `DEV` of `hw:CARD=x,SUBDEV=1` is the
value of its `SUBDEV`. -/
theorem getParamFromName_reads_subdevice :
    getParamFromName "hw:CARD=x,SUBDEV=1".toList "DEV".toList = "1".toList :=
  getParamFromName_reads_value "hw:CARD=x,SUB".toList "DEV".toList "1".toList [] (by decide) (by decide) (by decide)

end AlsaPassthroughSink
