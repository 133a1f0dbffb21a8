import Coro.Audio.AlsaSinkRun

/-!
The frame accounting of `AlsaSink::writeSimple`: every `snd_pcm_writei` starts at the first
frame the device has not accepted, so the accepted frames are the leading frames of the input,
each once and in order, whatever the pattern of short writes, errors and recoveries.
-/

namespace Coro.Audio

namespace AlsaSink

/-- The `snd_pcm_writei` calls of a log whose first call has index `n`, each with its byte
offset, the frames it asks for and the device's answer. -/
def writesFrom (device : Device) : Nat → List AlsaCall → List (Int × Int × Int)
  | _, [] => []
  | n, .writei pcm offset frames :: calls =>
    (offset, frames, device n (.writei pcm offset frames)) :: writesFrom device (n + 1) calls
  | n, _ :: calls => writesFrom device (n + 1) calls

/-- The frames a list of writes got the device to accept: an error accepts none. -/
def accepted (writes : List (Int × Int × Int)) : Nat := (writes.map fun w => w.2.2.toNat).sum

/-- The input frames a list of writes got the device to accept, in the order it accepted them:
a write at byte `offset` answered with `r ≥ 0` accepts frames `offset / 4` to `offset / 4 + r - 1`. -/
def acceptedFrames (writes : List (Int × Int × Int)) : List Int :=
  writes.flatMap fun w => (List.range w.2.2.toNat).map fun (i : Nat) => w.1 / 4 + i

/-- Writes in order from frame `done` of `total`: each asks, at byte `4 * done`, for the
`total - done` frames not accepted yet, and the next one starts after what it accepted. -/
def InOrder (total : Int) : Nat → List (Int × Int × Int) → Prop
  | _, [] => True
  | done, (offset, frames, answer) :: writes =>
    offset = 4 * done ∧ frames = total - done ∧ InOrder total (done + answer.toNat) writes

@[simp] theorem accepted_nil : accepted [] = 0 := rfl

@[simp] theorem accepted_cons (w : Int × Int × Int) (writes : List (Int × Int × Int)) :
    accepted (w :: writes) = w.2.2.toNat + accepted writes := by
  simp only [accepted, List.map_cons, List.sum_cons]

theorem writesFrom_append (device : Device) (xs ys : List AlsaCall) :
    ∀ n, writesFrom device n (xs ++ ys) = writesFrom device n xs ++ writesFrom device (n + xs.length) ys := by
  induction xs with
  | nil => exact fun _ => rfl
  | cons c xs more =>
    intro n
    cases c <;> simp only [List.cons_append, writesFrom, List.append_eq, more, List.length_cons,
      Nat.add_assoc, Nat.add_comm 1, List.cons_append]

theorem acceptedFrames_of_inOrder {total : Int} :
    ∀ {done : Nat} {writes : List (Int × Int × Int)}, InOrder total done writes →
      acceptedFrames writes = (List.range' done (accepted writes)).map Nat.cast
  | _, [], _ => rfl
  | done, (offset, frames, answer) :: writes, ⟨start, _, rest⟩ => by
    have first : offset / 4 = done := by omega
    rw [acceptedFrames, List.flatMap_cons, ← acceptedFrames, acceptedFrames_of_inOrder rest, first,
      accepted_cons, Nat.add_comm answer.toNat, ← List.range'_append, Nat.one_mul, List.map_append,
      List.range'_eq_map_range done, List.map_map]
    simp only [Function.comp_def, Nat.cast_add]

theorem writeLoop_succ_run (device : Device) (fuel : Nat) (frameCount offset : Int) (w : World) :
    (writeLoop device (fuel + 1) frameCount offset).run w =
      if frameCount ≤ 0 then ((), w) else
      let ret := device w.calls.length (.writei w.sink.pcm offset frameCount)
      let written : World := { w with calls := w.calls ++ [.writei w.sink.pcm offset frameCount] }
      if ret = 0 then ((), written)
      else if ret < 0 then
        let recovered : World := { written with calls := written.calls ++ [.recover w.sink.pcm ret] }
        let err := device written.calls.length (.recover w.sink.pcm ret)
        if err < 0 then ((), recovered)
        else (writeLoop device fuel (frameCount - err) (offset + err * 4)).run recovered
      else (writeLoop device fuel (frameCount - ret) (offset + ret * 4)).run written := by
  rw [writeLoop]
  by_cases stop : frameCount ≤ 0
  · rw [if_pos stop, if_pos stop]; rfl
  rw [if_neg stop, if_neg stop]
  simp only [StateT.run_bind, StateT.run_get, call_run, pure_bind, Id.bind_eq, Id.pure_eq]
  split_ifs <;>
    simp only [StateT.run_bind, StateT.run_pure, call_run, Id.bind_eq, Id.pure_eq, if_true, if_false,
      List.append_assoc, List.singleton_append, *]

section Accounting

variable (device : Device)
  (writes : ∀ n pcm offset frames,
    device n (.writei pcm offset frames) < 0 ∨ device n (.writei pcm offset frames) ≤ frames)
  (recovers : ∀ n pcm err, device n (.recover pcm err) ≤ 0)

include writes recovers

theorem writeLoop_in_order (total : Int) : ∀ (fuel done : Nat) (w : World), done ≤ total →
    ∃ new, ((writeLoop device fuel (total - done) (4 * done)).run w).2.calls = w.calls ++ new ∧
      InOrder total done (writesFrom device w.calls.length new) ∧
      done + accepted (writesFrom device w.calls.length new) ≤ total
  | 0, _, _, within => ⟨[], (List.append_nil _).symm, trivial, by simpa [writesFrom] using within⟩
  | fuel + 1, done, w, within => by
    rw [writeLoop_succ_run]
    dsimp only
    set ret := device w.calls.length (.writei w.sink.pcm (4 * done) (total - done)) with answer
    split_ifs with stop zero error failed
    · exact ⟨[], (List.append_nil _).symm, trivial, by simpa [writesFrom] using within⟩
    · refine ⟨[.writei w.sink.pcm (4 * done) (total - done)], rfl, ⟨rfl, rfl, trivial⟩, ?_⟩
      simpa [writesFrom, ← answer, zero] using within
    · refine ⟨[.writei w.sink.pcm (4 * done) (total - done), .recover w.sink.pcm ret],
        by rw [List.append_assoc]; rfl, ⟨rfl, rfl, trivial⟩, ?_⟩
      simp only [writesFrom, ← answer, accepted_cons, accepted_nil, Int.toNat_of_nonpos error.le]
      omega
    · have recovered := le_antisymm (recovers _ _ _) (not_lt.mp failed)
      rw [recovered, Int.sub_zero, Int.zero_mul, Int.add_zero]
      obtain ⟨new, calls, order, bound⟩ := writeLoop_in_order total fuel done _ within
      refine ⟨.writei w.sink.pcm (4 * done) (total - done) :: .recover w.sink.pcm ret :: new,
        by rw [calls]; simp only [List.append_assoc, List.cons_append, List.nil_append], ?_, ?_⟩
      · simp only [writesFrom, InOrder, ← answer, Int.toNat_of_nonpos error.le, Nat.add_zero, true_and]
        simpa only [List.length_append, List.length_singleton] using order
      · simp only [writesFrom, ← answer, accepted_cons, Int.toNat_of_nonpos error.le, Nat.zero_add]
        simpa only [List.length_append, List.length_singleton] using bound
    · have within' := (writes _ _ _ _).resolve_left error
      have left : total - done - ret = total - (done + ret.toNat : Nat) := by push_cast; omega
      have offset : 4 * (done : Int) + ret * 4 = 4 * (done + ret.toNat : Nat) := by push_cast; omega
      rw [left, offset]
      obtain ⟨new, calls, order, bound⟩ := writeLoop_in_order total fuel (done + ret.toNat) _ (by omega)
      refine ⟨.writei w.sink.pcm (4 * done) (total - done) :: new,
        by rw [calls]; simp only [List.append_assoc, List.cons_append, List.nil_append], ?_, ?_⟩
      · exact ⟨rfl, rfl, by simpa only [List.length_append, List.length_singleton] using order⟩
      · simp only [writesFrom, ← answer, accepted_cons]
        simp only [List.length_append, List.length_singleton] at bound
        omega

/-- On every device whose writes accept at most what they are asked for and whose recoveries answer
`0` or an error, the frames `writeSimple` gets accepted are the leading frames, each once, in order. -/
theorem writeSimple_accepts_leading_frames (fuel bytesCount : Nat) (w : World) :
    ∃ new, ((writeSimple device fuel bytesCount).run w).2.calls = w.calls ++ new ∧
      InOrder (bytesCount / 4 : Nat) 0 (writesFrom device w.calls.length new) ∧
      accepted (writesFrom device w.calls.length new) ≤ bytesCount / 4 ∧
      acceptedFrames (writesFrom device w.calls.length new) =
        (List.range (accepted (writesFrom device w.calls.length new))).map Nat.cast := by
  obtain ⟨new, calls, order, bound⟩ :=
    writeLoop_in_order device writes recovers (bytesCount / 4 : Nat) fuel 0 w (Int.ofNat_le.mpr (Nat.zero_le _))
  refine ⟨new, by simpa using calls, order, by omega, ?_⟩
  rw [acceptedFrames_of_inOrder order, List.range_eq_range']

end Accounting

/-- A device that accepts half of every write, rounded up, meets the conditions. -/
theorem writeSimple_accepts_leading_frames_halving :
    let halving : Device := fun _ c => match c with
      | .writei _ _ frames => if frames < 0 then -1 else (frames + 1) / 2
      | _ => 0
    let calls := ((writeSimple halving 8 40).run (fresh "default" ⟨.rawInt16, .rate48000, .stereo⟩)).2.calls
    (∀ n pcm offset frames,
      halving n (.writei pcm offset frames) < 0 ∨ halving n (.writei pcm offset frames) ≤ frames) ∧
      (∀ n pcm err, halving n (.recover pcm err) ≤ 0) ∧
      ∃ new, calls = [] ++ new ∧ InOrder (40 / 4 : Nat) 0 (writesFrom halving 0 new) ∧
        accepted (writesFrom halving 0 new) ≤ 40 / 4 ∧
        acceptedFrames (writesFrom halving 0 new) = (List.range (accepted (writesFrom halving 0 new))).map Nat.cast := by
  intro halving _
  have writes : ∀ n pcm offset frames,
      halving n (.writei pcm offset frames) < 0 ∨ halving n (.writei pcm offset frames) ≤ frames := by
    intro _ _ _ frames
    show (if frames < 0 then -1 else (frames + 1) / 2) < 0 ∨ (if frames < 0 then -1 else (frames + 1) / 2) ≤ frames
    split_ifs <;> omega
  have recovers : ∀ n pcm err, halving n (.recover pcm err) ≤ 0 := fun _ _ _ => le_refl 0
  exact ⟨writes, recovers, writeSimple_accepts_leading_frames halving writes recovers 8 40 _⟩

end AlsaSink

end Coro.Audio
