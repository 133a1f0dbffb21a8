import Coro.Audio.AudioCaps

/-!
The link gate of `coro::core::Node`: `Node::link<Node1, Node2>` exists only when
`canIntersect(Node1::outCaps(), Node2::inCaps())` is `true`. `Caps::intersect` is not under src/,
so it is a parameter.
-/

namespace Coro.Core

section Gate

variable {Cap Result : Type} (intersect : Cap → Cap → Result) (isValid : Result → Bool)

/-- The inner loop of `canIntersect`: `true` at the first `o` of `outs` with
`Caps::intersect(i, o).isValid()`. -/
def canIntersectWith (i : Cap) : List Cap → Bool
  | [] => false
  | o :: outs => if isValid (intersect i o) then true else canIntersectWith i outs

/-- `Node::canIntersect(in, out)`: the outer loop over `in`, returning `true` as soon as an
inner loop does. -/
def canIntersect : List Cap → List Cap → Bool
  | [], _ => false
  | i :: ins, outs => if canIntersectWith intersect isValid i outs then true else canIntersect ins outs

/-- The static declarations of a node class: `outCaps()` and `inCaps()`, each absent when
the class declares none (a sink has no `outCaps`, a source no `inCaps`). -/
structure NodeClass (Cap : Type) where
  outCaps : Option (List Cap)
  inCaps : Option (List Cap)

/-- Whether `Node::link<Node1, Node2>` compiles: both arrays exist, have one type, and intersect. -/
def linkAdmitted (prev next : NodeClass Cap) : Bool :=
  match prev.outCaps, next.inCaps with
  | some outs, some ins => outs.length == ins.length && canIntersect intersect isValid outs ins
  | _, _ => false

theorem canIntersectWith_iff (i : Cap) :
    ∀ outs, canIntersectWith intersect isValid i outs = true ↔ ∃ o ∈ outs, isValid (intersect i o) = true
  | [] => by simp [canIntersectWith]
  | o :: outs => by
    by_cases valid : isValid (intersect i o) = true
    · simp only [canIntersectWith, valid, if_true, true_iff]
      exact ⟨o, List.mem_cons_self o outs, valid⟩
    · simp [canIntersectWith, valid, canIntersectWith_iff i outs]

theorem canIntersect_iff :
    ∀ ins outs, canIntersect intersect isValid ins outs = true ↔
      ∃ i ∈ ins, ∃ o ∈ outs, isValid (intersect i o) = true
  | [], _ => by simp [canIntersect]
  | i :: ins, outs => by
    by_cases found : canIntersectWith intersect isValid i outs = true
    · simp only [canIntersect, found, if_true, true_iff]
      exact ⟨i, List.mem_cons_self i ins, (canIntersectWith_iff intersect isValid i outs).mp found⟩
    · have noneHere : ¬ ∃ o ∈ outs, isValid (intersect i o) = true := by
        rwa [← canIntersectWith_iff]
      simp only [Bool.not_eq_true] at found
      simp only [canIntersect, found, Bool.false_eq_true, if_false, canIntersect_iff ins outs,
        List.mem_cons, exists_eq_or_imp, noneHere, false_or]

theorem linkAdmitted_iff (prev next : NodeClass Cap) :
    linkAdmitted intersect isValid prev next = true ↔
      ∃ outs ins, prev.outCaps = some outs ∧ next.inCaps = some ins ∧ outs.length = ins.length ∧
        ∃ o ∈ outs, ∃ i ∈ ins, isValid (intersect o i) = true := by
  unfold linkAdmitted
  split
  · rename_i outs ins declaredOut declaredIn
    simp [declaredOut, declaredIn, canIntersect_iff]
  · rename_i absent
    simp only [Bool.false_eq_true, false_iff, not_exists, not_and]
    intro outs ins declaredOut declaredIn
    exact (absent outs ins declaredOut declaredIn).elim

/-- `canIntersect(A, B)` holds exactly when some pair of `A × B` intersects, and `link` compiles
exactly when the arrays exist, have one length, and some pair intersects. -/
theorem link_gate :
    (∀ ins outs, canIntersect intersect isValid ins outs = true ↔
      ∃ i ∈ ins, ∃ o ∈ outs, isValid (intersect i o) = true) ∧
    (∀ prev next : NodeClass Cap, linkAdmitted intersect isValid prev next = true ↔
      ∃ outs ins, prev.outCaps = some outs ∧ next.inCaps = some ins ∧ outs.length = ins.length ∧
        ∃ o ∈ outs, ∃ i ∈ ins, isValid (intersect o i) = true) ∧
    ((∀ a b, isValid (intersect a b) = isValid (intersect b a)) →
      ∀ ins outs, canIntersect intersect isValid ins outs = canIntersect intersect isValid outs ins) := by
  refine ⟨canIntersect_iff intersect isValid, linkAdmitted_iff intersect isValid, ?_⟩
  intro symmetric ins outs
  rw [Bool.eq_iff_iff, canIntersect_iff, canIntersect_iff]
  constructor
  · rintro ⟨i, memberIn, o, memberOut, valid⟩
    exact ⟨o, memberOut, i, memberIn, (symmetric i o) ▸ valid⟩
  · rintro ⟨o, memberOut, i, memberIn, valid⟩
    exact ⟨i, memberIn, o, memberOut, (symmetric o i) ▸ valid⟩

end Gate

open Coro.Audio

/-- `{ RawInt16, Rate44100, Stereo }`, the output capability of `AirPlaySource`. -/
def airPlayCaps : AudioCaps := ⟨some .rawInt16, some .rate44100, some .stereo⟩

/-- A one-element output array cannot be linked to a two-element input array holding the same
capability: the `std::array` types differ. -/
theorem link_rejects_unequal_lengths :
    let source : NodeClass AudioCaps := ⟨some [airPlayCaps], none⟩
    let sink : NodeClass AudioCaps := ⟨none, some [airPlayCaps, { rate := some .rate48000 }]⟩
    canIntersect AudioCaps.intersect Option.isSome [airPlayCaps] [airPlayCaps, { rate := some .rate48000 }] = true ∧
      linkAdmitted AudioCaps.intersect Option.isSome source sink = false := by
  decide

end Coro.Core
