import Coro.Audio.AlsaSink

/-!
Runs of `AlsaSink`: any sequence of `onProcess`, `setDevice` and `onStop` requests against a
device. Each operation has a Hoare triple over the sink's state monad; a `RunInvariant` collects
them, and one induction over the requests proves a property of every run.
-/

namespace Coro.Audio

namespace AlsaSink

/-- `⦃pre⦄ m ⦃post⦄` for the sink's state monad. -/
def Triple {α : Type} (pre : World → Prop) (m : StateM World α) (post : α → World → Prop) : Prop :=
  ∀ w, pre w → post (m.run w).1 (m.run w).2

section Rules

variable {α β : Type} {pre : World → Prop} {post : α → World → Prop}

theorem Triple.bind {m : StateM World α} {f : α → StateM World β} {mid : α → World → Prop}
    {post : β → World → Prop} (first : Triple pre m mid) (rest : ∀ a, Triple (mid a) (f a) post) :
    Triple pre (m >>= f) post :=
  fun w holds => rest _ _ (first w holds)

theorem Triple.pure {a : α} (holds : ∀ w, pre w → post a w) : Triple pre (Pure.pure a) post := holds

theorem Triple.ite {c : Prop} [Decidable c] {yes no : StateM World α} (ifYes : c → Triple pre yes post)
    (ifNo : ¬ c → Triple pre no post) : Triple pre (if c then yes else no) post := by
  by_cases holds : c
  · rw [if_pos holds]; exact ifYes holds
  · rw [if_neg holds]; exact ifNo holds

theorem Triple.weaken {pre' : World → Prop} {m : StateM World α} (stronger : ∀ w, pre w → pre' w)
    (triple : Triple pre' m post) : Triple pre m post :=
  fun w holds => triple w (stronger w holds)

theorem Triple.consequence {post' : α → World → Prop} {m : StateM World α}
    (triple : Triple pre m post') (weaker : ∀ a w, post' a w → post a w) : Triple pre m post :=
  fun w holds => weaker _ _ (triple w holds)

theorem Triple.get : Triple pre (MonadState.get : StateM World World) (fun v w => pre w ∧ v = w) :=
  fun _ holds => ⟨holds, rfl⟩

theorem Triple.modify {f : World → World} {post : Unit → World → Prop}
    (holds : ∀ w, pre w → post () (f w)) :
    Triple pre (modify f : StateM World Unit) post :=
  holds

theorem Triple.pure_bind {a : β} {f : β → StateM World α} (rest : Triple pre (f a) post) :
    Triple pre (Pure.pure a >>= f) post :=
  rest

end Rules

/-! What single operations do to the state. -/

theorem call_run (device : Device) (c : AlsaCall) (w : World) :
    (call device c).run w = (device w.calls.length c, { w with calls := w.calls ++ [c] }) := rfl

theorem openSimple_run (device : Device) (conf : AudioConf) (w : World) :
    (openSimple device conf).run w =
      if w.sink.pcm.isSome then (false, w)
      else if device w.calls.length (.open w.sink.device) ≠ 0 then
        (false, { w with calls := w.calls ++ [.open w.sink.device] })
      else (decide (device (w.calls.length + 1) (.setParams (some w.calls.length) conf.rate.toInt) = 0),
        { sink := { w.sink with pcm := some w.calls.length },
          calls := w.calls ++ [.open w.sink.device] ++ [.setParams (some w.calls.length) conf.rate.toInt] }) := by
  simp only [openSimple, StateT.run_bind, StateT.run_get, pure_bind, Id.bind_eq, Id.pure_eq]
  split_ifs with opened failed
  · rfl
  · simp only [StateT.run_bind, call_run, Id.bind_eq, failed, if_true, ne_eq, not_false_eq_true, StateT.run_pure,
      Id.pure_eq]
  · simp only [StateT.run_bind, call_run, Id.bind_eq, failed, if_false, StateT.run_pure, Id.pure_eq, ne_eq,
      setPcm, StateT.run_modify, List.length_append, List.length_singleton]
    by_cases accepted : device (w.calls.length + 1) (.setParams (some w.calls.length) conf.rate.toInt) = 0 <;>
      simp only [accepted, not_true_eq_false, not_false_eq_true, if_true, if_false, decide_True, decide_False] <;>
      rfl

/-- No call made so far passed `m_pcm == nullptr`. -/
def Safe (w : World) : Prop := ∀ c ∈ w.calls, c.handle ≠ some none

theorem handle_ne_null {pcm : Option Nat} (opened : pcm.isSome) : some pcm ≠ some none := by
  intro null
  rw [Option.some.injEq] at null
  rw [null] at opened
  exact Bool.false_ne_true opened

section Operations

variable (device : Device)

theorem call_keeps (good : AlsaCall → Prop) (sink : AlsaSink → Prop) {v : World} {c : AlsaCall}
    (admits : sink v.sink → good c) :
    Triple (fun w => ((∀ c ∈ w.calls, good c) ∧ sink w.sink) ∧ w.sink = v.sink) (call device c)
      (fun _ w => ((∀ c ∈ w.calls, good c) ∧ sink w.sink) ∧ w.sink = v.sink) := by
  rintro w ⟨⟨calls, holds⟩, same⟩
  refine ⟨⟨fun c' member => ?_, holds⟩, same⟩
  rcases List.mem_append.mp member with old | new
  · exact calls c' old
  · rw [List.mem_singleton.mp new]; exact admits (same ▸ holds)

theorem call_safe {v : World} {c : AlsaCall} (passes : c.handle = some v.sink.pcm) :
    Triple (fun w => (Safe w ∧ w.sink.pcm.isSome) ∧ w.sink = v.sink) (call device c)
      (fun _ w => (Safe w ∧ w.sink.pcm.isSome) ∧ w.sink = v.sink) :=
  call_keeps device (·.handle ≠ some none) (·.pcm.isSome) fun opened =>
    show c.handle ≠ some none by rw [passes]; exact handle_ne_null opened

theorem onStop_spec : Triple Safe (onStop device) (fun _ => Safe) := by
  refine Triple.bind Triple.get fun v =>
    Triple.ite (fun opened => ?_) (fun _ => Triple.pure fun _ h => h.1)
  exact Triple.weaken (fun _ h => ⟨⟨h.1, h.2 ▸ opened⟩, h.2 ▸ rfl⟩) (Triple.bind (call_safe device rfl) fun _ =>
    Triple.bind (call_safe device rfl) fun _ => Triple.modify fun _ h => h.1.1)

theorem openSimple_spec (opens : ∀ n name, device n (.open name) = 0) (conf : AudioConf) :
    Triple Safe (openSimple device conf) (fun _ w => Safe w ∧ w.sink.pcm.isSome) := by
  intro w safe
  rw [openSimple_run]
  split_ifs with opened failed
  · exact ⟨safe, opened⟩
  · exact absurd (opens _ _) failed
  · refine ⟨fun c member => ?_, rfl⟩
    rcases List.mem_append.mp member with older | new
    · rcases List.mem_append.mp older with old | opening
      · exact safe c old
      · rw [List.mem_singleton.mp opening]; exact nofun
    · rw [List.mem_singleton.mp new]; exact handle_ne_null rfl

theorem start_preserves (P : World → Prop) {pre : World → Prop} (conf : AudioConf)
    (opening : Triple pre (openSimple device conf) (fun _ => P))
    (swParams : ∀ v : World, Triple (fun w => P w ∧ w.sink = v.sink)
      (call device (.swParamsCurrent v.sink.pcm)) (fun _ w => P w ∧ w.sink = v.sink))
    (prepares : ∀ v : World, Triple (fun w => P w ∧ w.sink = v.sink)
      (call device (.prepare v.sink.pcm)) (fun _ w => P w ∧ w.sink = v.sink)) :
    Triple pre (start device conf) (fun _ => P) := by
  refine Triple.bind opening fun _ => Triple.bind Triple.get fun v => Triple.weaken (fun _ h => ⟨h.1, h.2 ▸ rfl⟩)
    (Triple.bind (swParams v) fun _ => Triple.ite (fun _ => Triple.pure fun _ h => h.1) (fun _ => Triple.pure_bind ?_))
  exact Triple.bind (prepares v) fun _ => Triple.pure fun _ h => h.1

theorem start_spec (opens : ∀ n name, device n (.open name) = 0) (conf : AudioConf) :
    Triple Safe (start device conf) (fun _ w => Safe w ∧ w.sink.pcm.isSome) :=
  start_preserves device _ conf (openSimple_spec device opens conf) (fun _ => call_safe device rfl)
    (fun _ => call_safe device rfl)

theorem writeLoop_preserves (P : World → Prop)
    (writes : ∀ (v : World) offset frames, Triple (fun w => P w ∧ w.sink = v.sink)
      (call device (.writei v.sink.pcm offset frames)) (fun _ w => P w ∧ w.sink = v.sink))
    (recovers : ∀ (v : World) err, Triple (fun w => P w ∧ w.sink = v.sink)
      (call device (.recover v.sink.pcm err)) (fun _ w => P w ∧ w.sink = v.sink)) :
    ∀ fuel frameCount offset, Triple P (writeLoop device fuel frameCount offset) (fun _ => P)
  | 0, _, _ => Triple.pure fun _ h => h
  | fuel + 1, frameCount, offset => by
    rw [writeLoop]
    refine Triple.ite (fun _ => Triple.pure fun _ h => h)
      (fun _ => Triple.pure_bind (Triple.bind Triple.get fun v => ?_))
    refine Triple.weaken (fun _ h => ⟨h.1, h.2 ▸ rfl⟩) (Triple.bind (writes v _ _) fun ret =>
      Triple.ite (fun _ => Triple.pure fun _ h => h.1) (fun _ => Triple.pure_bind ?_))
    refine Triple.ite (fun _ => Triple.bind (recovers v _) fun _ => ?_) (fun _ => Triple.pure_bind ?_)
    all_goals
      beta_reduce
      exact Triple.ite (fun _ => Triple.pure fun _ h => h.1) (fun _ => Triple.pure_bind
        (Triple.weaken (fun _ h => h.1) (writeLoop_preserves P writes recovers fuel _ _)))

theorem writeLoop_spec : ∀ fuel frameCount offset,
    Triple (fun w => Safe w ∧ w.sink.pcm.isSome) (writeLoop device fuel frameCount offset)
      (fun _ w => Safe w ∧ w.sink.pcm.isSome) :=
  writeLoop_preserves device _ (fun _ _ _ => call_safe device rfl) (fun _ _ => call_safe device rfl)

end Operations

/-- What the pipeline and the application ask of the sink: `onProcess(conf, buffer)` with a
buffer of `bytes` bytes, `setDevice(name)`, `onStop()`. -/
inductive Request
  | process (conf : AudioConf) (bytes : Nat)
  | setDevice (name : String)
  | stop
deriving DecidableEq, Repr

/-- Serve one request; `ac3Payload` and `fuel` as in `onProcess`. -/
def Request.serve (device : Device) (ac3Payload : Nat → Nat) (fuel : Nat) : Request → StateM World Unit
  | .process conf bytes => do let _ ← onProcess device ac3Payload fuel conf bytes
  | .setDevice name => AlsaSink.setDevice device name
  | .stop => onStop device

/-- Serve the requests in order. -/
def serveAll (device : Device) (ac3Payload : Nat → Nat) (fuel : Nat) : List Request → StateM World Unit
  | [] => pure ()
  | request :: rest => do
    request.serve device ac3Payload fuel
    serveAll device ac3Payload fuel rest

/-- A property of the sink's state that every request keeps, given by one triple per operation. -/
structure RunInvariant (device : Device) where
  inv : World → Prop
  ready : World → Prop
  ready_inv : ∀ w, ready w → inv w
  stops : Triple inv (onStop device) (fun _ => inv)
  starts : ∀ conf, Triple inv (start device conf) (fun _ => ready)
  writes : ∀ fuel bytes, Triple ready (writeSimple device fuel bytes) (fun _ => inv)
  holding : ∀ w, inv w → ¬ w.sink.pcm.isNone → ready w
  renames : ∀ w name, inv w → inv { w with sink := { w.sink with device := name } }
  reformats : ∀ w conf, inv w → inv { w with sink := { w.sink with conf := conf } }

namespace RunInvariant

variable {device : Device} (I : RunInvariant device)

theorem setDevice_keeps (name : String) : Triple I.inv (setDevice device name) (fun _ => I.inv) := by
  refine Triple.bind Triple.get fun _ => Triple.ite (fun _ => Triple.pure fun _ h => h.1)
    (fun _ => Triple.pure_bind ?_)
  exact Triple.bind (Triple.modify fun w h => I.renames w name h.1) fun _ => Triple.bind I.stops fun _ =>
    Triple.bind Triple.get fun _ =>
      Triple.weaken (fun _ h => h.1) (Triple.consequence (I.starts _) fun _ => I.ready_inv)

theorem onProcess_keeps (ac3Payload : Nat → Nat) (fuel : Nat) (conf : AudioConf) (bytes : Nat) :
    Triple I.inv (onProcess device ac3Payload fuel conf bytes) (fun _ => I.inv) := by
  refine Triple.bind Triple.get fun _ => Triple.ite (fun _ => Triple.weaken (fun _ h => h.1)
    (Triple.bind I.stops fun _ => Triple.bind (I.starts conf) fun _ => Triple.bind
      (@Triple.modify _ _ (fun _ => I.inv) fun w h => I.reformats w conf (I.ready_inv w h)) fun _ => ?_))
    (fun _ => Triple.pure_bind (Triple.weaken (fun _ h => h.1) ?_))
  all_goals
    refine Triple.bind Triple.get fun _ => Triple.ite
      (fun _ => Triple.bind (Triple.weaken (fun _ h => h.1) (I.starts conf)) fun _ => I.writes fuel _)
      (fun held => Triple.pure_bind (Triple.weaken ?_ (I.writes fuel _)))
    rintro _ ⟨holds, rfl⟩
    exact I.holding _ holds held

theorem serveAll_keeps (ac3Payload : Nat → Nat) (fuel : Nat) :
    ∀ requests, Triple I.inv (serveAll device ac3Payload fuel requests) (fun _ => I.inv)
  | [] => Triple.pure fun _ => id
  | request :: rest => by
    refine Triple.bind ?_ fun _ => serveAll_keeps ac3Payload fuel rest
    cases request with
    | process conf bytes => exact I.onProcess_keeps ac3Payload fuel conf bytes
    | setDevice name => exact I.setDevice_keeps name
    | stop => exact I.stops

end RunInvariant

/-- On a device that opens, no null handle passed so far is a run invariant; a sink holding an
opened handle is `ready`. -/
def RunInvariant.safe (device : Device) (opens : ∀ n name, device n (.open name) = 0) :
    RunInvariant device where
  inv := Safe
  ready w := Safe w ∧ w.sink.pcm.isSome
  ready_inv _ h := h.1
  stops := onStop_spec device
  starts := start_spec device opens
  writes fuel _ := Triple.consequence (writeLoop_spec device fuel _ 0) fun _ _ h => h.1
  holding _ safe held := ⟨safe, by simpa [Option.isNone_iff_eq_none, Option.isSome_iff_ne_none] using held⟩
  renames _ _ := id
  reformats _ _ := id

/-- On a device whose `snd_pcm_open` never fails, no run of requests passes `m_pcm == nullptr` to
an alsa-lib call. -/
theorem opened_sink_never_passes_null (device : Device) (opens : ∀ n name, device n (.open name) = 0)
    (ac3Payload : Nat → Nat) (fuel : Nat) (requests : List Request) (name : String) (conf : AudioConf) :
    ∀ c ∈ ((serveAll device ac3Payload fuel requests).run (fresh name conf)).2.calls, c.handle ≠ some none :=
  (RunInvariant.safe device opens).serveAll_keeps ac3Payload fuel requests _ nofun

/-- A device that accepts every call meets the condition. -/
theorem opened_sink_never_passes_null_accepting :
    let device : Device := fun _ _ => 0
    (∀ n name, device n (.open name) = 0) ∧
      ∀ c ∈ ((serveAll device id 1 [.process ⟨.rawInt16, .rate44100, .stereo⟩ 4, .stop]).run
        (fresh "default" ⟨.rawInt16, .rate48000, .stereo⟩)).2.calls, c.handle ≠ some none :=
  ⟨fun _ _ => rfl, opened_sink_never_passes_null _ (fun _ _ => rfl) id 1 _ _ _⟩

/-! Devices whose `snd_pcm_open` fails: `openSimple` leaves `m_pcm = nullptr`, `start` does not
look at its result, and every later call is handed the null handle. -/

/-- A call passes no handle, or `nullptr`. -/
def NullHandle (c : AlsaCall) : Prop := c.handle = none ∨ c.handle = some none

/-- Every call made so far passes no handle or `nullptr`, and `m_pcm` is `nullptr`. -/
def Unopened (w : World) : Prop := (∀ c ∈ w.calls, NullHandle c) ∧ w.sink.pcm = none

section Unopened

variable (device : Device) (fails : ∀ n name, device n (.open name) ≠ 0)

theorem onStop_unopened : Triple Unopened (onStop device) (fun _ => Unopened) := by
  refine Triple.bind Triple.get fun v =>
    Triple.ite (fun opened => ?_) (fun _ => Triple.pure fun _ h => h.1)
  rintro w ⟨unopened, rfl⟩
  rw [unopened.2] at opened
  exact absurd opened Bool.false_ne_true

theorem call_unopened {v : World} {c : AlsaCall} (passes : c.handle = some v.sink.pcm) :
    Triple (fun w => Unopened w ∧ w.sink = v.sink) (call device c) (fun _ w => Unopened w ∧ w.sink = v.sink) :=
  call_keeps device NullHandle (·.pcm = none) fun closed => .inr (by rw [passes, closed])

theorem writeLoop_unopened : ∀ fuel frameCount offset,
    Triple Unopened (writeLoop device fuel frameCount offset) (fun _ => Unopened) :=
  writeLoop_preserves device _ (fun _ _ _ => call_unopened device rfl) (fun _ _ => call_unopened device rfl)

include fails

theorem openSimple_unopened (conf : AudioConf) :
    Triple Unopened (openSimple device conf) (fun _ => Unopened) := by
  intro w unopened
  rw [openSimple_run]
  split_ifs with opened failed
  · exact unopened
  · refine ⟨fun c member => ?_, unopened.2⟩
    rcases List.mem_append.mp member with old | new
    · exact unopened.1 c old
    · rw [List.mem_singleton.mp new]; exact .inl rfl
  · exact absurd (not_not.mp failed) (fails _ _)

theorem start_unopened (conf : AudioConf) : Triple Unopened (start device conf) (fun _ => Unopened) :=
  start_preserves device _ conf (openSimple_unopened device fails conf) (fun _ => call_unopened device rfl)
    (fun _ => call_unopened device rfl)

end Unopened

/-- On a device that never opens, the sink stays unopened. -/
def RunInvariant.unopened (device : Device) (fails : ∀ n name, device n (.open name) ≠ 0) :
    RunInvariant device where
  inv := Unopened
  ready := Unopened
  ready_inv _ := id
  stops := onStop_unopened device
  starts := start_unopened device fails
  writes fuel _ := writeLoop_unopened device fuel _ 0
  holding _ h _ := h
  renames _ _ := id
  reformats _ _ := id

/-- On a device whose `snd_pcm_open` always fails, `m_pcm` stays `nullptr` along every run and
every call that takes a handle is handed `nullptr`. -/
theorem unopened_sink_passes_only_null (device : Device) (fails : ∀ n name, device n (.open name) ≠ 0)
    (ac3Payload : Nat → Nat) (fuel : Nat) (requests : List Request) (name : String) (conf : AudioConf) :
    let w : World := ((serveAll device ac3Payload fuel requests).run (fresh name conf)).2
    w.sink.pcm = none ∧ ∀ c ∈ w.calls, c.handle = none ∨ c.handle = some none :=
  have unopened := (RunInvariant.unopened device fails).serveAll_keeps ac3Payload fuel requests (fresh name conf)
    ⟨nofun, rfl⟩
  ⟨unopened.2, unopened.1⟩

/-- The device of the failed open above, with a format change and a stop. -/
theorem unopened_sink_passes_only_null_busy :
    let busy : Device := fun _ c => match c with | .open _ => -16 | _ => 0
    let w : World := ((serveAll busy id 1 [.process ⟨.rawInt16, .rate44100, .stereo⟩ 4, .stop]).run
      (fresh "default" ⟨.rawInt16, .rate48000, .stereo⟩)).2
    (∀ n name, busy n (.open name) ≠ 0) ∧
      w.sink.pcm = none ∧ ∀ c ∈ w.calls, c.handle = none ∨ c.handle = some none := by
  intro busy _
  have fails : ∀ n name, busy n (.open name) ≠ 0 := fun _ _ => (by decide : (-16 : Int) ≠ 0)
  exact ⟨fails, unopened_sink_passes_only_null _ fails id 1 _ _ _⟩

end AlsaSink

end Coro.Audio
