import Coro.Audio.AlsaSinkRun

/-!
The lifecycle of the handles `AlsaSink` passes to alsa-lib. A handle is named by the index of
the `snd_pcm_open` call that produced it; along every run, on every device, the sink never uses
a closed handle and never closes one twice.
-/

namespace Coro.Audio

namespace AlsaSink

section Handles

variable (device : Device)

/-- Call `h` of the log is a `snd_pcm_open` that the device accepted: it produced handle `h`. -/
def OpenedAt (calls : List AlsaCall) (h : Nat) : Prop :=
  ∃ name, calls[h]? = some (.open name) ∧ device h (.open name) = 0

/-- Every call of the log that passes an opened handle passes one that an accepted `snd_pcm_open`
earlier in the log produced and that no earlier `snd_pcm_close` released. -/
def Lifecycle (calls : List AlsaCall) : Prop :=
  ∀ j c h, calls[j]? = some c → c.handle = some (some h) →
    h < j ∧ OpenedAt device calls h ∧ ∀ i < j, calls[i]? ≠ some (.close (some h))

/-- The handle in `m_pcm`, if any, was opened and is not closed yet. -/
def Live (w : World) : Prop :=
  ∀ h, w.sink.pcm = some h →
    h < w.calls.length ∧ OpenedAt device w.calls h ∧ .close (some h) ∉ w.calls

/-- The handles of a run are in order. -/
def Handles (w : World) : Prop := Lifecycle device w.calls ∧ Live device w

theorem openedAt_append {calls : List AlsaCall} {h : Nat} (opened : OpenedAt device calls h) (c : AlsaCall) :
    OpenedAt device (calls ++ [c]) h :=
  have ⟨name, found, accepted⟩ := opened
  ⟨name, by rw [List.getElem?_append_left (List.getElem?_eq_some_iff.mp found).1, found], accepted⟩

theorem lifecycle_append {calls : List AlsaCall} (lifecycle : Lifecycle device calls) {c : AlsaCall}
    (live : ∀ h, c.handle = some (some h) →
      h < calls.length ∧ OpenedAt device calls h ∧ .close (some h) ∉ calls) :
    Lifecycle device (calls ++ [c]) := by
  intro j c' h found passes
  rcases Nat.lt_or_ge j calls.length with old | new
  · rw [List.getElem?_append_left old] at found
    obtain ⟨below, opened, notClosed⟩ := lifecycle j c' h found passes
    refine ⟨below, openedAt_append device opened c, fun i before => ?_⟩
    rw [List.getElem?_append_left (by omega)]
    exact notClosed i before
  · have last : j = calls.length := by
      have inside := (List.getElem?_eq_some_iff.mp found).1
      rw [List.length_append, List.length_singleton] at inside
      omega
    subst last
    rw [List.getElem?_concat_length, Option.some.injEq] at found
    subst found
    obtain ⟨below, opened, notClosed⟩ := live h passes
    refine ⟨below, openedAt_append device opened c, fun i before closed => notClosed ?_⟩
    rw [List.getElem?_append_left before] at closed
    exact List.mem_iff_getElem?.mpr ⟨i, closed⟩

theorem close_fresh {calls : List AlsaCall} (lifecycle : Lifecycle device calls) :
    .close (some calls.length) ∉ calls := by
  intro member
  obtain ⟨i, found⟩ := List.mem_iff_getElem?.mp member
  have inside := (List.getElem?_eq_some_iff.mp found).1
  have below := (lifecycle i _ _ found rfl).1
  omega

theorem live_append {w : World} (live : Live device w) {c : AlsaCall}
    (keeps : ∀ h, w.sink.pcm = some h → c ≠ .close (some h)) :
    Live device { w with calls := w.calls ++ [c] } := by
  intro h held
  obtain ⟨below, opened, notClosed⟩ := live h held
  refine ⟨by rw [List.length_append]; omega, openedAt_append device opened c, fun member => ?_⟩
  rcases List.mem_append.mp member with old | new
  · exact notClosed old
  · exact keeps h held (List.mem_singleton.mp new).symm

theorem call_handles {v : World} {c : AlsaCall} (passes : c.handle = some v.sink.pcm)
    (notClose : ∀ h, c ≠ .close (some h)) :
    Triple (fun w => Handles device w ∧ w.sink = v.sink) (call device c)
      (fun _ w => Handles device w ∧ w.sink = v.sink) := by
  rintro w ⟨⟨lifecycle, live⟩, same⟩
  refine ⟨⟨lifecycle_append device lifecycle fun h handle => live h ?_,
    live_append device live fun h _ => notClose h⟩, same⟩
  rw [same]
  rw [passes] at handle
  exact Option.some.inj handle

theorem close_lifecycle {v : World} :
    Triple (fun w => Handles device w ∧ w.sink = v.sink) (call device (.close v.sink.pcm))
      (fun _ w => Lifecycle device w.calls) := by
  rintro w ⟨⟨lifecycle, live⟩, same⟩
  exact lifecycle_append device lifecycle fun h handle =>
    live h (by rw [same]; exact Option.some.inj handle)

theorem onStop_handles : Triple (Handles device) (onStop device) (fun _ => Handles device) := by
  refine Triple.bind Triple.get fun v => Triple.ite (fun _ => ?_) (fun _ => Triple.pure fun _ h => h.1)
  refine Triple.weaken (fun _ h => ⟨h.1, h.2 ▸ rfl⟩) (Triple.bind (call_handles device rfl fun _ => nofun)
    fun _ => Triple.bind (close_lifecycle device) fun _ => ?_)
  exact Triple.modify fun _ lifecycle => ⟨lifecycle, fun _ held => Option.noConfusion held⟩

theorem openSimple_handles (conf : AudioConf) :
    Triple (Handles device) (openSimple device conf) (fun _ => Handles device) := by
  rintro w ⟨lifecycle, live⟩
  rw [openSimple_run]
  split_ifs with opened failed
  · exact ⟨lifecycle, live⟩
  · exact ⟨lifecycle_append device lifecycle nofun, live_append device live fun _ _ => nofun⟩
  · have accepted : OpenedAt device (w.calls ++ [.open w.sink.device]) w.calls.length :=
      ⟨_, List.getElem?_concat_length _ _, not_not.mp failed⟩
    have fresh : .close (some w.calls.length) ∉ w.calls ++ [.open w.sink.device] := fun member =>
      (List.mem_append.mp member).elim (close_fresh device lifecycle) fun new =>
        AlsaCall.noConfusion (List.mem_singleton.mp new)
    have first := @lifecycle_append device _ lifecycle (.open w.sink.device) nofun
    refine ⟨lifecycle_append device first fun h handle => ?_, fun h held => ?_⟩
    · cases Option.some.inj (Option.some.inj handle)
      exact ⟨by rw [List.length_append, List.length_singleton]; omega, accepted, fresh⟩
    · cases Option.some.inj held
      refine ⟨by simp only [List.length_append, List.length_singleton]; omega,
        openedAt_append device accepted _, fun member => ?_⟩
      exact (List.mem_append.mp member).elim fresh fun new =>
        AlsaCall.noConfusion (List.mem_singleton.mp new)

theorem start_handles (conf : AudioConf) :
    Triple (Handles device) (start device conf) (fun _ => Handles device) :=
  start_preserves device _ conf (openSimple_handles device conf)
    (fun _ => call_handles device rfl fun _ => nofun) (fun _ => call_handles device rfl fun _ => nofun)

theorem writeLoop_handles : ∀ fuel frameCount offset,
    Triple (Handles device) (writeLoop device fuel frameCount offset) (fun _ => Handles device) :=
  writeLoop_preserves device _ (fun _ _ _ => call_handles device rfl fun _ => nofun)
    (fun _ _ => call_handles device rfl fun _ => nofun)

end Handles

/-- On every device, the handles of a run stay in order. -/
def RunInvariant.handles (device : Device) : RunInvariant device where
  inv := Handles device
  ready := Handles device
  ready_inv _ := id
  stops := onStop_handles device
  starts := start_handles device
  writes fuel _ := writeLoop_handles device fuel _ 0
  holding _ h _ := h
  renames _ _ := id
  reformats _ _ := id

/-- Along every run from a fresh sink, on every device, a call passes an opened handle `h` only if
call `h` is an accepted `snd_pcm_open` and no earlier call closed `h`. -/
theorem sink_never_uses_closed_handle (device : Device) (ac3Payload : Nat → Nat) (fuel : Nat)
    (requests : List Request) (name : String) (conf : AudioConf) :
    let calls : List AlsaCall := ((serveAll device ac3Payload fuel requests).run (fresh name conf)).2.calls
    ∀ j c h, calls[j]? = some c → c.handle = some (some h) →
      h < j ∧ (∃ name, calls[h]? = some (.open name) ∧ device h (.open name) = 0) ∧
        ∀ i < j, calls[i]? ≠ some (.close (some h)) :=
  ((RunInvariant.handles device).serveAll_keeps ac3Payload fuel requests (fresh name conf)
    ⟨nofun, nofun⟩).1

end AlsaSink

end Coro.Audio
