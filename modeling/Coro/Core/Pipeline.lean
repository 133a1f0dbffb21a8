import Coro.Core.Node

/-!
The successor pointers `m_next` of a collection of nodes, and the pipelines that admitted
`Node::link(prev, next)` calls assemble. `link` checks nothing beyond the class-level gate.
-/

namespace Coro.Core

/-- `m_next` of each of `count` nodes; `none` is `nullptr`. -/
structure Pipeline (count : Nat) where
  next : Fin count → Option (Fin count)

namespace Pipeline

variable {count : Nat}

/-- Freshly constructed nodes: every `m_next` is `nullptr`. -/
def unlinked : Pipeline count := ⟨fun _ => none⟩

/-- `Node::link(prev, next)`: `prev.m_next = &next`. -/
def link (p : Pipeline count) (prev next : Fin count) : Pipeline count :=
  ⟨fun v => if v = prev then some next else p.next v⟩

/-- The node `k` steps down the chain from `v`, following `next()`. -/
def follow (p : Pipeline count) : Nat → Fin count → Option (Fin count)
  | 0, v => some v
  | k + 1, v => (p.next v).bind (p.follow k)

/-- Following `next()` from `u` arrives at `v`. -/
def Reaches (p : Pipeline count) (u v : Fin count) : Prop := ∃ k, p.follow k u = some v

/-- No node reaches itself again by following `next()`. -/
def Acyclic (p : Pipeline count) : Prop := ∀ v k, p.follow (k + 1) v ≠ some v

/-- The chain from `v` reaches a node whose `next()` is `nullptr`. -/
inductive Ends (p : Pipeline count) : Fin count → Prop
  | last {v : Fin count} : p.next v = none → Ends p v
  | step {v w : Fin count} : p.next v = some w → Ends p w → Ends p v

@[simp] theorem link_next (p : Pipeline count) (prev next v : Fin count) :
    (p.link prev next).next v = if v = prev then some next else p.next v := rfl

theorem follow_add (p : Pipeline count) (a b : Nat) (v : Fin count) :
    p.follow (a + b) v = (p.follow a v).bind (p.follow b) := by
  induction a generalizing v with
  | zero => simp [follow]
  | succ a ih =>
    rw [Nat.add_right_comm, follow, follow]
    cases p.next v with
    | none => rfl
    | some w => exact ih w

theorem ends_link_of_avoids {p : Pipeline count} {prev next w : Fin count} (ends : p.Ends w)
    (avoids : ¬ p.Reaches w prev) : (p.link prev next).Ends w := by
  induction ends with
  | @last v none_ =>
    have other : v ≠ prev := fun same => avoids ⟨0, by rw [same]; rfl⟩
    exact .last (by simp [other, none_])
  | @step v w next_ _ ih =>
    have other : v ≠ prev := fun same => avoids ⟨0, by rw [same]; rfl⟩
    refine .step (by simp [other, next_]) (ih fun ⟨k, reach⟩ => avoids ⟨k + 1, ?_⟩)
    simp [follow, next_, reach]

theorem ends_link {p : Pipeline count} (allEnd : ∀ v, p.Ends v) {prev next : Fin count}
    (forward : ¬ p.Reaches next prev) : ∀ v, (p.link prev next).Ends v := by
  have fromNext := @ends_link_of_avoids count p prev next next (allEnd next) forward
  intro v
  induction allEnd v with
  | @last u none_ =>
    by_cases here : u = prev
    · exact .step (by simp [here]) fromNext
    · exact .last (by simp [here, none_])
  | @step u w next_ _ ih =>
    by_cases here : u = prev
    · exact .step (by simp [here]) fromNext
    · exact .step (by simp [here, next_]) ih

theorem follow_eq_none_of_ends {p : Pipeline count} {v : Fin count} (ends : p.Ends v) :
    ∃ d, p.follow d v = none := by
  induction ends with
  | last none_ => exact ⟨1, by simp [follow, none_]⟩
  | step next_ _ ih =>
    obtain ⟨d, gone⟩ := ih
    exact ⟨d + 1, by simp [follow, next_, gone]⟩

theorem no_cycle_of_ends {p : Pipeline count} {v : Fin count} (ends : p.Ends v) (k : Nat) :
    p.follow (k + 1) v ≠ some v := by
  intro cycle
  obtain ⟨d, gone⟩ := follow_eq_none_of_ends ends
  have periodic : ∀ n, p.follow (n * (k + 1)) v = some v := by
    intro n
    induction n with
    | zero => rw [Nat.zero_mul]; rfl
    | succ n ih => rw [Nat.succ_mul, follow_add, ih, Option.some_bind, cycle]
  have late := periodic d
  rw [show d * (k + 1) = d + d * k by rw [Nat.mul_succ, Nat.add_comm], follow_add, gone] at late
  exact Option.noConfusion late

theorem exists_last {p : Pipeline count} {v : Fin count} (ends : p.Ends v) :
    ∃ d last, p.follow d v = some last ∧ p.next last = none := by
  induction ends with
  | last none_ => exact ⟨0, _, rfl, none_⟩
  | step next_ _ ih =>
    obtain ⟨d, last, reach, final⟩ := ih
    exact ⟨d + 1, last, by simp [follow, next_, reach], final⟩

theorem follow_ne_of_lt {p : Pipeline count} (acyclic : p.Acyclic) {v x : Fin count} {i j : Nat}
    (before : i < j) (first : p.follow i v = some x) : p.follow j v ≠ some x := by
  intro again
  have back := follow_add p i (j - i - 1 + 1) v
  rw [show i + (j - i - 1 + 1) = j by omega, again, first, Option.some_bind] at back
  exact acyclic x (j - i - 1) back.symm

theorem last_within_count {p : Pipeline count} (acyclic : p.Acyclic) {v last : Fin count}
    {d : Nat} (reach : p.follow d v = some last) : d < count := by
  have defined : ∀ i : Fin (d + 1), ∃ x, p.follow i v = some x := by
    intro i
    cases found : p.follow i v with
    | some x => exact ⟨x, rfl⟩
    | none =>
      have := follow_add p i (d - i) v
      rw [found, Nat.add_sub_cancel' (Nat.lt_succ_iff.mp i.isLt), reach] at this
      exact Option.noConfusion this
  choose node reached using defined
  have injective : Function.Injective node := by
    intro i j same
    by_contra different
    rcases Nat.lt_or_gt_of_ne (Fin.val_ne_of_ne different) with before | after
    · exact follow_ne_of_lt acyclic before (reached i) (same ▸ reached j)
    · exact follow_ne_of_lt acyclic after (reached j) (same ▸ reached i)
  simpa using Fintype.card_le_of_injective node injective

theorem ends_unlinked (v : Fin count) : (unlinked : Pipeline count).Ends v := .last rfl

theorem follow_link_of_avoids (p : Pipeline count) (prev next : Fin count) :
    ∀ k u, (∀ j < k, p.follow j u ≠ some prev) → (p.link prev next).follow k u = p.follow k u
  | 0, _, _ => rfl
  | k + 1, u, avoids => by
    have other : u ≠ prev := fun same => avoids 0 (Nat.succ_pos k) (by rw [same]; rfl)
    simp only [follow, link_next, if_neg other]
    cases found : p.next u with
    | none => rfl
    | some w =>
      refine follow_link_of_avoids p prev next k w fun j before reach => ?_
      exact avoids (j + 1) (Nat.succ_lt_succ before) (by simp [follow, found, reach])

theorem link_closes_cycle {p : Pipeline count} {prev next : Fin count} (back : p.Reaches next prev) :
    ¬ (p.link prev next).Acyclic := by
  classical
  intro acyclic
  have first := Nat.find_spec back
  have avoids := fun j (before : j < Nat.find back) => Nat.find_min back before
  apply acyclic prev (Nat.find back)
  rw [follow, link_next, if_pos rfl, Option.some_bind, follow_link_of_avoids p prev next _ next avoids,
    first]

end Pipeline

open Pipeline

section Runs

variable {Cap Result : Type} {count : Nat}

/-- The pipelines that sequences of admitted `link` calls assemble from freshly constructed
nodes of the classes `classOf`. -/
inductive Assembled (intersect : Cap → Cap → Result) (isValid : Result → Bool)
    (classOf : Fin count → NodeClass Cap) : Pipeline count → Prop
  | unlinked : Assembled intersect isValid classOf unlinked
  | link {p : Pipeline count} (prev next : Fin count) :
      linkAdmitted intersect isValid (classOf prev) (classOf next) = true →
      Assembled intersect isValid classOf p → Assembled intersect isValid classOf (p.link prev next)

/-- The assembled pipelines in which no `link(prev, next)` targets a node that already reaches
`prev` (`prev` itself included). -/
inductive ForwardAssembled (intersect : Cap → Cap → Result) (isValid : Result → Bool)
    (classOf : Fin count → NodeClass Cap) : Pipeline count → Prop
  | unlinked : ForwardAssembled intersect isValid classOf unlinked
  | link {p : Pipeline count} (prev next : Fin count) :
      linkAdmitted intersect isValid (classOf prev) (classOf next) = true → ¬ p.Reaches next prev →
      ForwardAssembled intersect isValid classOf p →
      ForwardAssembled intersect isValid classOf (p.link prev next)

theorem ForwardAssembled.allEnd {intersect : Cap → Cap → Result} {isValid : Result → Bool}
    {classOf : Fin count → NodeClass Cap} {p : Pipeline count}
    (assembled : ForwardAssembled intersect isValid classOf p) : ∀ v, p.Ends v := by
  induction assembled with
  | unlinked => exact ends_unlinked
  | link prev next _ forward _ allEnd => exact ends_link allEnd forward

/-- Along links that never target a node reaching their source, no node reaches itself and every
chain ends within fewer steps than there are nodes; any other link closes a cycle. -/
theorem forward_links_stay_acyclic (intersect : Cap → Cap → Result) (isValid : Result → Bool)
    (classOf : Fin count → NodeClass Cap) :
    (∀ p : Pipeline count, ForwardAssembled intersect isValid classOf p →
      p.Acyclic ∧ ∀ v, ∃ k < count, ∃ last, p.follow k v = some last ∧ p.next last = none) ∧
    (∀ (p : Pipeline count) prev next, p.Reaches next prev → ¬ (p.link prev next).Acyclic) := by
  refine ⟨fun p assembled => ?_, fun p prev next back => link_closes_cycle back⟩
  have acyclic : p.Acyclic := fun v => no_cycle_of_ends (assembled.allEnd v)
  refine ⟨acyclic, fun v => ?_⟩
  obtain ⟨d, last, reach, final⟩ := exists_last (assembled.allEnd v)
  exact ⟨d, last_within_count acyclic reach, last, reach, final⟩

end Runs

open Coro.Audio

/-- A transform stage class that accepts and produces `AirPlaySource`'s format. -/
def transformClass : NodeClass AudioCaps := ⟨some [airPlayCaps], some [airPlayCaps]⟩

/-- The gate admits `link(a, a)` for a node of such a class, and the chain from `a` comes back
to `a` after one step. -/
theorem self_link_admitted :
    Assembled AudioCaps.intersect Option.isSome (fun _ : Fin 1 => transformClass)
        ((unlinked : Pipeline 1).link 0 0) ∧
      ((unlinked : Pipeline 1).link 0 0).follow 1 0 = some 0 :=
  ⟨.link 0 0 (by decide) .unlinked, rfl⟩

end Coro.Core
