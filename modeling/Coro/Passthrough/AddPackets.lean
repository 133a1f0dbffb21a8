import Mathlib

/-!
`AlsaPassthroughSink::AddPackets`: the loop that hands `frames` frames to `snd_pcm_writei`,
recovering through `snd_pcm_recover` and `HandleError`. The resume loop of `HandleError` runs on
`retries` and the write loop on fuel; a run that would not end is `none`.
-/

namespace AlsaPassthroughSink

/-- An alsa-lib call `AddPackets` makes on `m_pcm`. -/
inductive PcmCall
  | writei (buffer size : Int)
  | recover (err : Int)
  | prepare
  | resume
  | state
  | start
deriving DecidableEq, Repr

/-- The device: its answer to the `n`-th call of a run; `snd_pcm_state` answers the number of the
state. -/
abbrev Device := Nat → PcmCall → Int

/-- The fields of `AlsaPassthroughSink` that `AddPackets` reads: whether `m_pcm` is set,
`m_fragmented`, `m_originalPeriodSize` and `m_format.m_frameSize`. -/
structure Sink where
  pcm : Bool
  fragmented : Bool
  originalPeriodSize : Nat
  frameSize : Nat
deriving DecidableEq, Repr

/-- The calls made so far, oldest first; `none` for a run that does not end. -/
abbrev Run := StateT (List PcmCall) Option

/-- `EPIPE`, `ESTRPIPE`, `EAGAIN` and `ENOSYS` of Linux. -/
def epipe : Int := 32
def estrpipe : Int := 86
def eagain : Int := 11
def enosys : Int := 38

/-- `SND_PCM_STATE_PREPARED`. -/
def sndPcmStatePrepared : Int := 2

/-- `INT_MAX`. -/
def intMax : Nat := 2147483647

/-- The `int` a `snd_pcm_sframes_t` is narrowed to. -/
def int32 (x : Int) : Int := x.bmod (2 ^ 32)

/-- The `unsigned int` an `int` is converted to. -/
def uint32 (x : Int) : Nat := (x % 2 ^ 32).toNat

theorem uint32_natCast {n : Nat} (small : n < 2 ^ 32) : uint32 n = n := by
  unfold uint32
  omega

theorem int32_of_lt {x : Int} (low : -2 ^ 31 ≤ x) (high : x < 2 ^ 31) : int32 x = x := by
  rw [int32, Int.bmod_def]
  split_ifs <;> omega

section AddPackets

variable (device : Device) (sink : Sink) (retries : Nat)

/-- Make one call and read the device's answer. -/
def call (c : PcmCall) : Run Int := fun calls => some (device calls.length c, calls ++ [c])

/-- The `snd_pcm_resume` loop of `HandleError`, for at most `retries` attempts. -/
def resumeLoop : Nat → Run Int
  | 0 => failure
  | retries + 1 => do
    let err ← call device .resume
    if err = -eagain then resumeLoop retries else return err

/-- `HandleError(name, err)`. -/
def handleError (err : Int) : Run Unit :=
  if err = -epipe then do
    let _ ← call device .prepare
  else if err = -estrpipe then do
    let err ← resumeLoop device retries
    if err = -enosys then
      let _ ← call device .prepare
  else pure ()

/-- The frames one iteration of `AddPackets` counts as written. -/
def writeFrames (buffer amount : Int) : Run Int := do
  let ret := int32 (← call device (.writei buffer amount))
  if ret < 0 then
    let ret ← call device (.recover ret)
    if ret < 0 then
      handleError device retries ret
      let ret := int32 (← call device (.writei buffer amount))
      if ret < 0 then
        handleError device retries ret
        return 0
      return ret
    return ret
  return ret

/-- `if (ret > 0 && snd_pcm_state(m_pcm) == SND_PCM_STATE_PREPARED) snd_pcm_start(m_pcm);` -/
def startIfPrepared (ret : Int) : Run Unit := do
  if ret > 0 then
    if (← call device .state) = sndPcmStatePrepared then
      let _ ← call device .start

/-- The loop of `AddPackets` with `framesWritten` frames written and `dataLeft` left, for at
most `fuel` tests of its condition. -/
def addPacketsLoop (offset : Nat) : Nat → Int → Int → Run Int
  | 0, _, _ => failure
  | fuel + 1, dataLeft, framesWritten => do
    if dataLeft ≤ 0 then return framesWritten
    let amount := if sink.fragmented then min dataLeft sink.originalPeriodSize else dataLeft
    let buffer := offset * sink.frameSize + framesWritten * sink.frameSize
    let ret ← writeFrames device retries buffer amount
    startIfPrepared device ret
    if ret ≤ 0 then return framesWritten
    addPacketsLoop offset fuel (dataLeft - ret) (framesWritten + ret)

/-- `AddPackets(data, frames, offset)`. -/
def addPackets (fuel frames offset : Nat) : Run Nat := do
  if !sink.pcm then return intMax
  return uint32 (← addPacketsLoop device sink retries offset fuel frames 0)

end AddPackets

section Accounting

variable (device : Device)

/-- The `snd_pcm_writei` calls of a log whose first call has index `n`, each with its byte
offset, the frames it asks for and the device's answer. -/
def writesFrom : Nat → List PcmCall → List (Int × Int × Int)
  | _, [] => []
  | n, .writei buffer size :: calls =>
    (buffer, size, device n (.writei buffer size)) :: writesFrom (n + 1) calls
  | n, _ :: calls => writesFrom (n + 1) calls

/-- The frames a list of writes got the device to accept: an error accepts none. -/
def accepted (writes : List (Int × Int × Int)) : Nat := (writes.map fun w => w.2.2.toNat).sum

/-- The input frames a list of writes got the device to accept, in the order it accepted them:
a write at byte `buffer` answered with `r ≥ 0` accepts frames `buffer / frameSize` on. -/
def acceptedFrames (frameSize : Nat) (writes : List (Int × Int × Int)) : List Int :=
  writes.flatMap fun w => (List.range w.2.2.toNat).map fun (i : Nat) => w.1 / frameSize + i

/-- Writes in order from frame `done` up to frame `total`: each starts at the byte of frame
`done`, asks for no frame past `total`, and the next one starts after what it accepted. -/
def InOrder (frameSize : Nat) (total : Int) : Nat → List (Int × Int × Int) → Prop
  | _, [] => True
  | done, (buffer, size, answer) :: writes =>
    buffer = done * frameSize ∧ size ≤ total - done ∧ InOrder frameSize total (done + answer.toNat) writes

@[simp] theorem call_run (c : PcmCall) (calls : List PcmCall) :
    (call device c).run calls = some (device calls.length c, calls ++ [c]) := rfl

@[simp] theorem accepted_nil : accepted [] = 0 := rfl

@[simp] theorem accepted_cons (w : Int × Int × Int) (writes : List (Int × Int × Int)) :
    accepted (w :: writes) = w.2.2.toNat + accepted writes := by
  simp only [accepted, List.map_cons, List.sum_cons]

theorem accepted_append (xs ys : List (Int × Int × Int)) : accepted (xs ++ ys) = accepted xs + accepted ys := by
  induction xs with
  | nil => rw [List.nil_append, accepted_nil, Nat.zero_add]
  | cons w xs more => rw [List.cons_append, accepted_cons, accepted_cons, more, Nat.add_assoc]

theorem writesFrom_append (xs ys : List PcmCall) :
    ∀ n, writesFrom device n (xs ++ ys) = writesFrom device n xs ++ writesFrom device (n + xs.length) ys := by
  induction xs with
  | nil => exact fun _ => rfl
  | cons c xs more =>
    intro n
    cases c <;> simp only [List.cons_append, writesFrom, List.append_eq, more, List.length_cons,
      Nat.add_assoc, Nat.add_comm 1, List.cons_append]

theorem inOrder_append {frameSize : Nat} {total : Int} (xs ys : List (Int × Int × Int)) :
    ∀ done, InOrder frameSize total done (xs ++ ys) ↔
      InOrder frameSize total done xs ∧ InOrder frameSize total (done + accepted xs) ys := by
  induction xs with
  | nil => exact fun _ => ⟨fun order => ⟨trivial, order⟩, fun order => order.2⟩
  | cons w xs more =>
    intro done
    simp only [List.cons_append, InOrder, List.append_eq, more, accepted_cons, Nat.add_assoc, and_assoc]

theorem acceptedFrames_of_inOrder {frameSize : Nat} (framing : 0 < frameSize) {total : Int} :
    ∀ {done : Nat} {writes : List (Int × Int × Int)}, InOrder frameSize total done writes →
      acceptedFrames frameSize writes = (List.range' done (accepted writes)).map Nat.cast
  | _, [], _ => rfl
  | done, (buffer, size, answer) :: writes, ⟨start, _, rest⟩ => by
    have first : buffer / frameSize = done := by
      rw [start, Int.mul_ediv_cancel _ (Int.ofNat_ne_zero.mpr (Nat.pos_iff_ne_zero.mp framing))]
    rw [acceptedFrames, List.flatMap_cons, ← acceptedFrames, acceptedFrames_of_inOrder framing rest, first,
      accepted_cons, Nat.add_comm answer.toNat, ← List.range'_append, Nat.one_mul, List.map_append,
      List.range'_eq_map_range done, List.map_map]
    simp only [Function.comp_def, Int.natCast_add]

theorem startIfPrepared_run (ret : Int) (calls : List PcmCall) :
    ∃ extra, (startIfPrepared device ret).run calls = some ((), calls ++ extra) ∧
      ∀ n, writesFrom device n extra = [] := by
  unfold startIfPrepared
  split_ifs with positive
  · simp only [StateT.run_bind, call_run, Option.bind_eq_bind, Option.some_bind]
    split_ifs
    · exact ⟨[.state, .start],
        by rw [show [PcmCall.state, .start] = [.state] ++ [.start] from rfl, ← List.append_assoc]; rfl,
        fun _ => rfl⟩
    · exact ⟨[.state], rfl, fun _ => rfl⟩
  · exact ⟨[], by rw [List.append_nil]; rfl, fun _ => rfl⟩

section Recovery

variable (retries : Nat) (resumes : ∀ n, ∃ m < retries, device (n + m) .resume ≠ -eagain)

theorem resumeLoop_run : ∀ (k : Nat) (calls : List PcmCall),
    (∃ m < k, device (calls.length + m) .resume ≠ -eagain) →
    ∃ err new, (resumeLoop device k).run calls = some (err, calls ++ new) ∧ ∀ n, writesFrom device n new = []
  | 0, _, ⟨_, bound, _⟩ => absurd bound (Nat.not_lt_zero _)
  | k + 1, calls, ⟨m, bound, answer⟩ => by
    simp only [resumeLoop, StateT.run_bind, call_run, Option.bind_eq_bind, Option.some_bind]
    split_ifs with again
    · cases m with
      | zero => exact absurd again answer
      | succ m =>
        obtain ⟨err, new, run, none⟩ := resumeLoop_run k (calls ++ [.resume]) ⟨m, by omega, by
          simpa only [List.length_append, List.length_singleton, Nat.add_assoc, Nat.add_comm 1] using answer⟩
        exact ⟨err, .resume :: new, by simpa only [List.append_assoc, List.singleton_append] using run,
          fun n => none (n + 1)⟩
    · exact ⟨_, [.resume], rfl, fun _ => rfl⟩

include resumes

theorem handleError_run (err : Int) (calls : List PcmCall) :
    ∃ new, (handleError device retries err).run calls = some ((), calls ++ new) ∧
      ∀ n, writesFrom device n new = [] := by
  unfold handleError
  split_ifs with pipe suspended
  · exact ⟨[.prepare], rfl, fun _ => rfl⟩
  · obtain ⟨e, new, run, none⟩ := resumeLoop_run device retries calls (resumes _)
    simp only [StateT.run_bind, run, Option.bind_eq_bind, Option.some_bind]
    split_ifs
    · exact ⟨new ++ [.prepare], by rw [← List.append_assoc]; rfl, fun n => by rw [writesFrom_append, none]; rfl⟩
    · exact ⟨new, rfl, none⟩
  · exact ⟨[], by rw [List.append_nil]; rfl, fun _ => rfl⟩

variable (writes : ∀ n buffer size, -2 ^ 31 ≤ device n (.writei buffer size) ∧
    (device n (.writei buffer size) < 0 ∨ device n (.writei buffer size) ≤ size))
  (recovers : ∀ n err, device n (.recover err) ≤ 0)

include writes recovers

theorem writeFrames_run {frameSize : Nat} {total : Int} {done : Nat} {buffer amount : Int}
    (start : buffer = done * frameSize) (fits : amount ≤ total - done) (nonneg : 0 ≤ amount)
    (small : amount < 2 ^ 31) (calls : List PcmCall) :
    ∃ ret new, (writeFrames device retries buffer amount).run calls = some (ret, calls ++ new) ∧
      0 ≤ ret ∧ ret ≤ amount ∧ accepted (writesFrom device calls.length new) = ret.toNat ∧
      InOrder frameSize total done (writesFrom device calls.length new) ∧
      ∀ w ∈ writesFrom device calls.length new, w.2.1 = amount := by
  have narrow : ∀ n, int32 (device n (.writei buffer amount)) = device n (.writei buffer amount) :=
    fun n => int32_of_lt (writes n _ _).1 (by rcases (writes n buffer amount).2 with error | within <;> omega)
  have first := writes calls.length buffer amount
  simp only [writeFrames, StateT.run_bind, call_run, Option.bind_eq_bind, Option.some_bind, narrow]
  set r := device calls.length (.writei buffer amount) with answer
  split_ifs with failed
  case neg =>
    exact ⟨r, [.writei buffer amount], rfl, Int.not_lt.mp failed, first.2.resolve_left failed, rfl,
      ⟨start, fits, trivial⟩,
      fun w member => by rw [List.mem_singleton.mp member]⟩
  simp only [StateT.run_bind, call_run, Option.bind_eq_bind, Option.some_bind, List.append_assoc,
    List.singleton_append, List.length_append, List.length_singleton]
  set e := device (calls.length + 1) (.recover r) with recovered
  split_ifs with unrecovered
  case neg =>
    have zero : e = 0 := by have := recovers (calls.length + 1) r; omega
    refine ⟨e, [.writei buffer amount, .recover r], rfl, Int.not_lt.mp unrecovered, by omega, ?_,
      ⟨start, fits, trivial⟩, fun w member => ?_⟩
    · simp only [writesFrom, ← answer, accepted_cons, accepted_nil, zero]
      omega
    · simp only [writesFrom, List.mem_singleton] at member
      rw [member]
  obtain ⟨new, run, none⟩ := handleError_run device retries resumes e (calls ++ [.writei buffer amount, .recover r])
  simp only [StateT.run_bind, run, call_run, Option.bind_eq_bind, Option.some_bind, narrow, List.append_assoc]
  have index : (calls ++ ([PcmCall.writei buffer amount, .recover r] ++ new)).length =
      calls.length + 1 + 1 + new.length := by
    simp only [List.length_append, List.length_cons, List.length_nil]; omega
  rw [index]
  have second := writes (calls.length + 1 + 1 + new.length) buffer amount
  set r' := device (calls.length + 1 + 1 + new.length) (.writei buffer amount) with answer'
  have writesOf : ∀ more : List PcmCall, (∀ n, writesFrom device n more = []) →
      writesFrom device calls.length ([.writei buffer amount, .recover r] ++ new ++ [.writei buffer amount] ++ more) =
        [(buffer, amount, r), (buffer, amount, r')] := fun more quiet => by
    simp only [List.append_assoc, List.cons_append, List.nil_append, writesFrom, List.append_eq,
      writesFrom_append, none, quiet, List.length_cons, List.length_nil, ← answer, ← answer']
  have order : InOrder frameSize total done [(buffer, amount, r), (buffer, amount, r')] :=
    ⟨start, fits, by rw [show r.toNat = 0 by omega, Nat.add_zero]; exact ⟨start, fits, trivial⟩⟩
  have sizes : ∀ w ∈ [(buffer, amount, r), (buffer, amount, r')], w.2.1 = amount :=
    List.forall_mem_cons.mpr ⟨rfl, List.forall_mem_cons.mpr ⟨rfl, nofun⟩⟩
  split_ifs with refused
  case pos =>
    obtain ⟨new', run', none'⟩ := handleError_run device retries resumes r'
      (calls ++ ([.writei buffer amount, .recover r] ++ (new ++ [.writei buffer amount])))
    simp only [StateT.run_bind, run', Option.bind_eq_bind, Option.some_bind]
    refine ⟨0, [.writei buffer amount, .recover r] ++ new ++ [.writei buffer amount] ++ new', by
      simp only [List.append_assoc]; rfl,
      Int.le_refl 0, nonneg, ?_⟩
    rw [writesOf new' none']
    exact ⟨by simp only [accepted_cons, accepted_nil]; omega, order, sizes⟩
  case neg =>
    refine ⟨r', [.writei buffer amount, .recover r] ++ new ++ [.writei buffer amount] ++ [], by
      rw [List.append_nil, List.append_assoc]; rfl,
      Int.not_lt.mp refused, second.2.resolve_left refused, ?_⟩
    rw [writesOf [] fun _ => rfl]
    exact ⟨by simp only [accepted_cons, accepted_nil]; omega, order, sizes⟩

theorem addPacketsLoop_run (sink : Sink) (offset frames : Nat) (small : frames < 2 ^ 31) :
    ∀ (fuel framesWritten : Nat) (calls : List PcmCall), framesWritten ≤ frames → frames - framesWritten < fuel →
      ∃ new, (addPacketsLoop device sink retries offset fuel (frames - framesWritten : Nat) framesWritten).run calls =
          some (((framesWritten + accepted (writesFrom device calls.length new) : Nat) : Int), calls ++ new) ∧
        InOrder sink.frameSize (offset + frames : Nat) (offset + framesWritten) (writesFrom device calls.length new) ∧
        framesWritten + accepted (writesFrom device calls.length new) ≤ frames ∧
        (sink.fragmented = true → ∀ w ∈ writesFrom device calls.length new, w.2.1 ≤ sink.originalPeriodSize)
  | 0, _, _, _, enough => absurd enough (Nat.not_lt_zero _)
  | fuel + 1, framesWritten, calls, within, enough => by
    simp only [addPacketsLoop]
    by_cases finished : ((frames - framesWritten : Nat) : Int) ≤ 0
    · rw [if_pos finished]
      exact ⟨[], by rw [List.append_nil]; rfl, trivial, by simp only [writesFrom, accepted_nil]; omega, nofun⟩
    rw [if_neg finished]
    set amount : Int := if sink.fragmented then min ((frames - framesWritten : Nat) : Int) sink.originalPeriodSize
      else ((frames - framesWritten : Nat) : Int) with sizing
    have bounded : 0 ≤ amount ∧ amount ≤ (frames - framesWritten : Nat) ∧
        (sink.fragmented = true → amount ≤ sink.originalPeriodSize) := by
      rw [sizing]
      split_ifs with fragmented
      · exact ⟨Int.le_min.mpr ⟨by omega, by omega⟩, Int.min_le_left _ _, fun _ => Int.min_le_right _ _⟩
      · exact ⟨by omega, Int.le_refl _, fun enabled => absurd enabled fragmented⟩
    have start : (offset : Int) * sink.frameSize + (framesWritten : Int) * sink.frameSize =
        ((offset + framesWritten : Nat) : Int) * sink.frameSize := by
      rw [Int.natCast_add, Int.add_mul]
    obtain ⟨ret, new, run, low, high, counted, order, sizes⟩ := writeFrames_run device retries resumes writes
      recovers start (show amount ≤ ((offset + frames : Nat) : Int) - ((offset + framesWritten : Nat) : Int) by omega)
      bounded.1 (Int.lt_of_le_of_lt bounded.2.1 (by omega)) calls
    obtain ⟨extra, started, quiet⟩ := startIfPrepared_run device ret (calls ++ new)
    simp only [StateT.run_bind, StateT.run_pure, Option.pure_def, run, started, Option.bind_eq_bind, Option.some_bind]
    split_ifs with stop
    · have quiet' : writesFrom device calls.length (new ++ extra) = writesFrom device calls.length new := by
        rw [writesFrom_append, quiet, List.append_nil]
      have none : accepted (writesFrom device calls.length new) = 0 := by omega
      refine ⟨new ++ extra, by rw [quiet', none, List.append_assoc]; rfl, ?_⟩
      rw [quiet', none]
      exact ⟨order, by omega, fun fragmented w member => (sizes w member).symm ▸ bounded.2.2 fragmented⟩
    have left : ((frames - framesWritten : Nat) : Int) - ret =
        ((frames - (framesWritten + ret.toNat) : Nat) : Int) := by
      omega
    have written : (framesWritten : Int) + ret = ((framesWritten + ret.toNat : Nat) : Int) := by omega
    obtain ⟨more, next, order', bound, sizes'⟩ :=
      addPacketsLoop_run sink offset frames small fuel (framesWritten + ret.toNat) (calls ++ new ++ extra)
        (by omega) (by omega)
    have whole : writesFrom device calls.length (new ++ extra ++ more) =
        writesFrom device calls.length new ++ writesFrom device (calls ++ new ++ extra).length more := by
      rw [writesFrom_append, writesFrom_append, quiet, List.append_nil, List.length_append, List.length_append,
        List.length_append, Nat.add_assoc]
    refine ⟨new ++ extra ++ more, ?_, ?_, ?_, ?_⟩
    · simp only [StateT.run_bind, StateT.run_pure, Option.pure_def, Option.bind_eq_bind, Option.some_bind, left,
        written, next]
      rw [whole, accepted_append, counted, Nat.add_assoc, List.append_assoc, List.append_assoc]
    · rw [whole, inOrder_append, counted, Nat.add_assoc]
      exact ⟨order, order'⟩
    · rw [whole, accepted_append, counted]
      omega
    · intro fragmented w member
      rw [whole, List.mem_append] at member
      rcases member with first | later
      · exact (sizes w first).symm ▸ bounded.2.2 fragmented
      · exact sizes' fragmented w later
/-- For every `frames < 2^31`, on a device whose answers meet the conditions, `AddPackets` returns
the frames the device accepted, which are the input frames from `offset` on, each once, in order. -/
theorem addPackets_returns_accepted_frames (sink : Sink) (opened : sink.pcm = true)
    (fuel frames offset : Nat) (small : frames < 2 ^ 31) (enough : frames < fuel) (calls : List PcmCall) :
    ∃ new, (addPackets device sink retries fuel frames offset).run calls =
        some (accepted (writesFrom device calls.length new), calls ++ new) ∧
      accepted (writesFrom device calls.length new) ≤ frames ∧
      InOrder sink.frameSize (offset + frames : Nat) offset (writesFrom device calls.length new) ∧
      (0 < sink.frameSize → acceptedFrames sink.frameSize (writesFrom device calls.length new) =
        (List.range' offset (accepted (writesFrom device calls.length new))).map Nat.cast) ∧
      (sink.fragmented = true → ∀ w ∈ writesFrom device calls.length new, w.2.1 ≤ sink.originalPeriodSize) := by
  obtain ⟨new, run, order, bound, sizes⟩ :=
    addPacketsLoop_run device retries resumes writes recovers sink offset frames small fuel 0 calls (Nat.zero_le _)
      (by omega)
  rw [Nat.sub_zero, Nat.zero_add, Int.natCast_zero] at run
  rw [Nat.add_zero] at order
  refine ⟨new, ?_, by omega, order, fun framing => acceptedFrames_of_inOrder framing order, sizes⟩
  simp only [addPackets, opened, Bool.not_true, StateT.run_bind, Option.bind_eq_bind]
  rw [if_neg Bool.false_ne_true]
  simp only [StateT.run_bind, StateT.run_pure, Option.pure_def, Option.bind_eq_bind, Option.some_bind, run]
  rw [uint32_natCast (by omega)]

end Recovery

/-- A device that accepts half of every write, rounded up, and resumes at once, meets the
conditions. -/
theorem addPackets_returns_accepted_frames_halving :
    let halving : Device := fun _ c => match c with
      | .writei _ size => if size < 0 then -1 else (size + 1) / 2
      | _ => 0
    let sink : Sink := ⟨true, true, 3, 4⟩
    (∀ n, ∃ m < 1, halving (n + m) .resume ≠ -eagain) ∧
      (∀ n buffer size, -2 ^ 31 ≤ halving n (.writei buffer size) ∧
        (halving n (.writei buffer size) < 0 ∨ halving n (.writei buffer size) ≤ size)) ∧
      (∀ n err, halving n (.recover err) ≤ 0) ∧ sink.pcm = true ∧ 10 < 2 ^ 31 ∧ 10 < 11 ∧
      ∃ new, (addPackets halving sink 1 11 10 7).run [] = some (accepted (writesFrom halving 0 new), [] ++ new) ∧
        accepted (writesFrom halving 0 new) ≤ 10 ∧
        InOrder sink.frameSize (7 + 10 : Nat) 7 (writesFrom halving 0 new) ∧
        (0 < sink.frameSize → acceptedFrames sink.frameSize (writesFrom halving 0 new) =
          (List.range' 7 (accepted (writesFrom halving 0 new))).map Nat.cast) ∧
        (sink.fragmented = true → ∀ w ∈ writesFrom halving 0 new, w.2.1 ≤ sink.originalPeriodSize) := by
  intro halving sink
  have resumes : ∀ n, ∃ m < 1, halving (n + m) .resume ≠ -eagain :=
    fun _ => ⟨0, Nat.one_pos, show (0 : Int) ≠ -eagain by decide⟩
  have writes : ∀ n buffer size, -2 ^ 31 ≤ halving n (.writei buffer size) ∧
      (halving n (.writei buffer size) < 0 ∨ halving n (.writei buffer size) ≤ size) := by
    intro _ _ size
    show -2 ^ 31 ≤ (if size < 0 then -1 else (size + 1) / 2) ∧
      ((if size < 0 then -1 else (size + 1) / 2) < 0 ∨ (if size < 0 then -1 else (size + 1) / 2) ≤ size)
    split_ifs <;> omega
  have recovers : ∀ n err, halving n (.recover err) ≤ 0 := fun _ _ => Int.le_refl 0
  exact ⟨resumes, writes, recovers, rfl, by decide, by decide,
    addPackets_returns_accepted_frames halving 1 resumes writes recovers sink rfl 11 10 7 (by decide) (by decide) []⟩

section Suspended
variable (device : Device) (retries : Nat) (stuck : ∀ n, device n .resume = -eagain)

include stuck

theorem resumeLoop_stuck : ∀ k (calls : List PcmCall), (resumeLoop device k).run calls = none
  | 0, _ => rfl
  | k + 1, calls => by
    simp only [resumeLoop, StateT.run_bind, call_run, Option.bind_eq_bind, Option.some_bind, stuck, if_true]
    exact resumeLoop_stuck k _

variable (suspends : ∀ n buffer size, device n (.writei buffer size) = -estrpipe)
  (recovery : ∀ n err, device n (.recover err) = -estrpipe)
include suspends recovery

theorem writeFrames_stuck (buffer amount : Int) (calls : List PcmCall) :
    (writeFrames device retries buffer amount).run calls = none := by
  have narrow : int32 (-estrpipe) = -estrpipe := rfl
  have failed : -estrpipe < 0 := by decide
  have other : -estrpipe ≠ -epipe := by decide
  simp only [writeFrames, handleError, StateT.run_bind, call_run, Option.bind_eq_bind, Option.some_bind, suspends,
    recovery, narrow, if_pos failed, if_neg other, if_true, resumeLoop_stuck device stuck, Option.none_bind]

theorem addPacketsLoop_stuck (sink : Sink) (offset fuel : Nat) (dataLeft framesWritten : Int) (left : 0 < dataLeft)
    (calls : List PcmCall) :
    (addPacketsLoop device sink retries offset fuel dataLeft framesWritten).run calls = none := by
  cases fuel with
  | zero => rfl
  | succ fuel =>
    simp only [addPacketsLoop, if_neg (Int.not_le.mpr left), StateT.run_bind, StateT.run_pure, Option.pure_def,
      Option.bind_eq_bind, Option.some_bind, writeFrames_stuck device retries stuck suspends recovery, Option.none_bind]

end Suspended

/-- A write of `2^31` frames accepted at once returns `0`, and a suspended device that keeps
answering `-EAGAIN` to `snd_pcm_resume` keeps `AddPackets` from returning. -/
theorem addPackets_narrowed_or_suspended :
    let greedy : Device := fun _ c => match c with
      | .writei _ size => size
      | _ => 0
    let suspended : Device := fun _ c => match c with
      | .writei _ _ | .recover _ => -estrpipe
      | .resume => -eagain
      | _ => 0
    let sink : Sink := ⟨true, false, 0, 4⟩
    (∀ n buffer size, greedy n (.writei buffer size) < 0 ∨ greedy n (.writei buffer size) ≤ size) ∧
      (∀ n err, greedy n (.recover err) ≤ 0) ∧
      (addPackets greedy sink 0 1 (2 ^ 31) 0).run [] = some (0, [.writei 0 (2 ^ 31), .recover (-2 ^ 31)]) ∧
      accepted (writesFrom greedy 0 [.writei 0 (2 ^ 31), .recover (-2 ^ 31)]) = 2 ^ 31 ∧
      (∀ n buffer size, suspended n (.writei buffer size) < 0) ∧ (∀ n err, suspended n (.recover err) < 0) ∧
      ∀ fuel retries, (addPackets suspended sink retries fuel 1 0).run [] = none := by
  intro greedy suspended sink
  have failed : -estrpipe < 0 := by decide
  refine ⟨fun _ _ _ => .inr (Int.le_refl _), fun _ _ => Int.le_refl 0, rfl, by decide, fun _ _ _ => failed,
    fun _ _ => failed, fun fuel retries => ?_⟩
  simp only [addPackets, Bool.not_true, StateT.run_bind, Option.bind_eq_bind]
  rw [if_neg Bool.false_ne_true]
  simp only [StateT.run_bind, StateT.run_pure, Option.pure_def, Option.bind_eq_bind, Option.some_bind,
    addPacketsLoop_stuck suspended retries (fun _ => rfl) (fun _ _ _ => rfl) (fun _ _ => rfl) sink 0 fuel
      ((1 : Nat) : Int) 0 (by decide), Option.none_bind]

end Accounting

end AlsaPassthroughSink
