import Coro.Core.Buffer

/-!
Runs of the reservation protocol: the buffers a constructor and `acquire(n)` / `commit(m)` pairs
reach. The front-space branch of `acquire` returns position 0 but leaves `m_acquiredOffset` where
the last window was, and `commit` publishes that stale offset.
-/

namespace Coro.Core

namespace Buffer

/-- The buffers reachable from a constructor by reservation cycles. -/
inductive Reachable : Buffer → Prop
  | ofSize (size : SizeT) : Reachable (ofSize size)
  | ofData (data : List UInt8) (size reservedSize : SizeT) : Reachable (ofData data size reservedSize)
  | cycle {b : Buffer} (n m : SizeT) (w : List UInt8) (within : m ≤ n) (fits : w.length ≤ n.toNat) :
      Reachable b → Reachable (b.cycle n m w)

@[simp] theorem cycle_offset (b : Buffer) (n m : SizeT) (w : List UInt8) :
    (b.cycle n m w).offset = (b.acquire n).1.acquiredOffset := rfl

@[simp] theorem cycle_size (b : Buffer) (n m : SizeT) (w : List UInt8) : (b.cycle n m w).size = m := rfl

@[simp] theorem cycle_acquiredOffset (b : Buffer) (n m : SizeT) (w : List UInt8) :
    (b.cycle n m w).acquiredOffset = (b.acquire n).1.acquiredOffset := rfl

theorem cycle_buffer (b : Buffer) (n m : SizeT) (w : List UInt8) :
    (b.cycle n m w).buffer = writeBytes (b.acquire n).1.buffer (b.acquire n).2 w := rfl

theorem Reachable.offset_eq {b : Buffer} (reachable : Reachable b) : b.offset = b.acquiredOffset := by
  cases reachable <;> rfl

theorem acquire_of_front {b : Buffer} {n : SizeT} (front : n ≤ b.offset) : b.acquire n = (b, 0) := by
  simp only [acquire, if_pos front]

theorem cycle_of_front {b : Buffer} {n : SizeT} (m : SizeT) (w : List UInt8) (front : n ≤ b.offset) :
    b.cycle n m w = (b.write 0 w).commit m := by
  rw [cycle, acquire_of_front front]

/-- From `Buffer(0)`, after cycles writing `{1}` and `{2}`, a third cycle writes `{3}` at position 0
but `commit(1)` publishes offset 1 again. -/
theorem front_cycle_publishes_stale_window :
    let b : Buffer := ((ofSize 0).cycle 1 1 [1]).cycle 1 1 [2]
    Reachable b ∧ (b.acquire 1).2 = 0 ∧ (b.cycle 1 1 [3]).data = [2] :=
  ⟨.cycle _ _ _ (by decide) (by decide) (.cycle _ _ _ (by decide) (by decide) (.ofSize 0)),
    by decide, by decide⟩

/-- `Buffer(3)` with cycles of 2, 1 and 2 bytes commits 2 bytes at offset 2 of 3, and the next
`acquire(3)` hands out a window past the end of the storage. -/
theorem front_cycle_escapes_storage :
    let b : Buffer := (((ofSize 3).cycle 2 2 []).cycle 1 1 []).cycle 2 2 []
    Reachable b ∧ b.buffer.length < b.offset.toNat + b.size.toNat ∧
      b.sizeAtBack.toNat = 2 ^ 64 - 1 ∧ b.buffer.length < (b.acquire 3).2 :=
  ⟨.cycle _ _ _ (by decide) (by decide)
      (.cycle _ _ _ (by decide) (by decide) (.cycle _ _ _ (by decide) (by decide) (.ofSize 3))),
    by decide, by decide, by decide⟩

theorem front_cycle_data {b : Buffer} {n : SizeT} (front : n ≤ b.offset) (m : SizeT) {w : List UInt8}
    (before : w.length ≤ b.acquiredOffset.toNat) :
    (b.cycle n m w).buffer = writeBytes b.buffer 0 w ∧
      (b.cycle n m w).data = readBytes b.buffer b.acquiredOffset.toNat m.toNat := by
  rw [cycle_of_front m w front, data, commit_offset, commit_size, commit_buffer, write_buffer,
    write_acquiredOffset]
  exact ⟨rfl, readBytes_writeBytes_of_disjoint (.inr (by omega))⟩

/-- Every front-space cycle of a reachable buffer keeps `m_offset` and republishes the bytes at the
old offset, whatever the caller stored. -/
theorem front_cycles_republish {b : Buffer} (reachable : Reachable b) {n : SizeT} (front : n ≤ b.offset)
    (m : SizeT) (w : List UInt8) (fits : w.length ≤ n.toNat) :
    (b.cycle n m w).offset = b.offset ∧ (b.cycle n m w).data = readBytes b.buffer b.offset.toNat m.toNat := by
  have settled := reachable.offset_eq
  refine ⟨by rw [cycle_of_front m w front, commit_offset, write_acquiredOffset, settled], ?_⟩
  rw [settled]
  exact (front_cycle_data front m (by rw [← settled]; bv_omega)).2

/-- `Buffer(0)` after two one-byte cycles, with a third request of one byte. -/
theorem front_cycles_republish_second :
    let b : Buffer := ((ofSize 0).cycle 1 1 [1]).cycle 1 1 [2]
    (Reachable b ∧ (1 : SizeT) ≤ b.offset ∧ [3].length ≤ (1 : SizeT).toNat) ∧
      (b.cycle 1 1 [3]).offset = b.offset ∧ (b.cycle 1 1 [3]).data = readBytes b.buffer b.offset.toNat (1 : SizeT).toNat :=
  have reachable : Reachable (((ofSize 0).cycle 1 1 [1]).cycle 1 1 [2]) :=
    .cycle _ _ _ (by decide) (by decide) (.cycle _ _ _ (by decide) (by decide) (.ofSize 0))
  ⟨⟨reachable, by decide, by decide⟩, front_cycles_republish reachable (by decide) 1 [3] (by decide)⟩

/-! Cycles whose `acquire` finds no space in front: the back and grow branches. -/

/-- The buffers reachable from a constructor by cycles whose `acquire(n)` takes the back or the
grow branch (`n > m_offset`), with a grown size that fits in `size_t`. -/
inductive ReachableBehind : Buffer → Prop
  | ofSize (size : SizeT) : ReachableBehind (ofSize size)
  | ofData (data : List UInt8) (size reservedSize : SizeT) : ReachableBehind (ofData data size reservedSize)
  | cycle {b : Buffer} (n m : SizeT) (w : List UInt8) (within : m ≤ n) (fits : w.length ≤ n.toNat)
      (behind : ¬ n ≤ b.offset) (room : b.offset.toNat + b.size.toNat + n.toNat < 2 ^ 64) :
      ReachableBehind b → ReachableBehind (b.cycle n m w)

section Behind

variable {b : Buffer} (contained : b.offset.toNat + b.size.toNat ≤ b.buffer.length) {n m : SizeT}
  (noWrap : b.offset.toNat + b.size.toNat + n.toNat < 2 ^ 64) (behind : ¬ n ≤ b.offset) (within : m ≤ n)
include contained noWrap behind within

theorem cycle_of_behind (w : List UInt8) :
    (b.cycle n m w).offset.toNat = b.offset.toNat + b.size.toNat ∧
      (b.cycle n m w).offset.toNat + (b.cycle n m w).size.toNat ≤ (b.cycle n m w).buffer.length := by
  have position := (acquire_of_behind contained behind).1
  have inside := (acquire_window contained noWrap).1.1
  have offset : (b.cycle n m w).offset.toNat = b.offset.toNat + b.size.toNat := by
    rw [cycle_offset, (acquire_of_behind contained behind).2, offset_add_size_toNat contained]
  refine ⟨offset, ?_⟩
  rw [offset, cycle_size, cycle_buffer, length_writeBytes]
  bv_omega

theorem cycle_data_of_behind {w : List UInt8} (written : w.length = m.toNat) :
    (b.cycle n m w).data = w := by
  have position := (acquire_of_behind contained behind).1
  have inside := (acquire_window contained noWrap).1.1
  rw [data, (cycle_of_behind contained noWrap behind within w).1, cycle_size, cycle_buffer, ← position,
    ← written]
  exact readBytes_writeBytes (by bv_omega)

end Behind

theorem ReachableBehind.contained {b : Buffer} (reachable : ReachableBehind b) :
    Reachable b ∧ b.offset.toNat + b.size.toNat ≤ b.buffer.length := by
  induction reachable with
  | ofSize size => exact ⟨.ofSize size, Nat.zero_le _⟩
  | ofData data size reservedSize => exact ⟨.ofData data size reservedSize, ofData_contained _ _ _⟩
  | cycle n m w within fits behind room _ ih =>
    exact ⟨.cycle n m w within fits ih.1, (cycle_of_behind ih.2 room behind within w).2⟩

/-- Along runs that never take the front-space branch, the committed region stays in the storage
and every cycle publishes exactly the bytes written into its window. -/
theorem behind_cycles_publish {b : Buffer} (reachable : ReachableBehind b) :
    Reachable b ∧ b.offset.toNat + b.size.toNat ≤ b.buffer.length ∧
      ∀ (n m : SizeT) (w : List UInt8), m ≤ n → w.length = m.toNat → ¬ n ≤ b.offset →
        b.offset.toNat + b.size.toNat + n.toNat < 2 ^ 64 → (b.cycle n m w).data = w :=
  ⟨reachable.contained.1, reachable.contained.2, fun _ _ _ within written behind room =>
    cycle_data_of_behind reachable.contained.2 room behind within written⟩

/-- `Buffer(0)` after one cycle writing `{1}` satisfies the hypothesis. -/
theorem behind_cycles_publish_one :
    let b : Buffer := (ofSize 0).cycle 1 1 [1]
    ReachableBehind b ∧ (Reachable b ∧ b.offset.toNat + b.size.toNat ≤ b.buffer.length ∧
      ∀ (n m : SizeT) (w : List UInt8), m ≤ n → w.length = m.toNat → ¬ n ≤ b.offset →
        b.offset.toNat + b.size.toNat + n.toNat < 2 ^ 64 → (b.cycle n m w).data = w) :=
  have reachable : ReachableBehind ((ofSize 0).cycle 1 1 [1]) :=
    .cycle 1 1 [1] (by decide) (by decide) (by decide) (by decide) (.ofSize 0)
  ⟨reachable, behind_cycles_publish reachable⟩

/-! Narrowing cycles: `acquire(n_i)` then `commit(n_i)` with requests that never grow. -/

/-- Every `acquire` of the cycles `(n_i, w_i)` (request, then the caller's stores, then
`commit(n_i)`) leaves the storage as it is. -/
def KeepsStorage : Buffer → List (SizeT × List UInt8) → Prop
  | _, [] => True
  | b, (n, w) :: rest => (b.acquire n).1.buffer = b.buffer ∧ KeepsStorage (b.cycle n n w) rest

theorem keepsStorage_of_front {b : Buffer} (settled : b.offset = b.acquiredOffset) :
    ∀ rest : List (SizeT × List UInt8), (∀ c ∈ rest, c.1 ≤ b.offset) → KeepsStorage b rest
  | [], _ => trivial
  | (n, w) :: rest, small => by
    have front : n ≤ b.offset := small (n, w) (List.mem_cons_self _ _)
    refine ⟨by rw [acquire_of_front front], keepsStorage_of_front ?_ rest ?_⟩
    · simp only [cycle_offset, cycle_acquiredOffset]
    · intro c member
      simpa only [cycle_offset, acquire_of_front front, ← settled] using
        small c (List.mem_cons_of_mem _ member)

theorem le_offset_after_first {b : Buffer} (reachable : Reachable b)
    (noWrap : b.offset.toNat + b.size.toNat < 2 ^ 64) {n : SizeT} (narrowing : n ≤ b.size)
    (w : List UInt8) : n ≤ (b.cycle n n w).offset := by
  simp only [cycle_offset, acquire_acquiredOffset]
  split_ifs with front
  · rwa [← reachable.offset_eq]
  · have sum : (b.offset + b.size).toNat = b.offset.toNat + b.size.toNat :=
      BitVec.toNat_add_of_lt noWrap
    bv_omega

/-- Along narrowing cycles `s ≥ n_1 ≥ n_2 ≥ …` from a reachable buffer, only the first `acquire`
may change the storage, provided `m_offset + m_size` does not wrap. -/
theorem narrowing_grows_at_most_first {b : Buffer} (reachable : Reachable b)
    (noWrap : b.offset.toNat + b.size.toNat < 2 ^ 64) (n : SizeT) (w : List UInt8)
    (rest : List (SizeT × List UInt8)) (narrowing : n ≤ b.size)
    (nonincreasing : (n :: rest.map Prod.fst).Pairwise (· ≥ ·)) :
    (¬ b.Grows n → (b.acquire n).1.buffer = b.buffer) ∧ KeepsStorage (b.cycle n n w) rest := by
  refine ⟨fun stays => by rw [acquire_buffer, if_neg stays], keepsStorage_of_front rfl rest ?_⟩
  intro c member
  have below : c.1 ≤ n :=
    List.rel_of_pairwise_cons nonincreasing (List.mem_map_of_mem Prod.fst member)
  exact BitVec.le_trans below (le_offset_after_first reachable noWrap narrowing w)

/-- `Buffer({1, 2, 3, 4}, 4, 0)` narrowed to 2 and then 1 bytes grows once, at the first cycle. -/
theorem narrowing_grows_at_most_first_fresh :
    let b : Buffer := ofData [1, 2, 3, 4] 4 0
    (Reachable b ∧ b.offset.toNat + b.size.toNat < 2 ^ 64 ∧ (2 : SizeT) ≤ b.size ∧
      ((2 : SizeT) :: [((1 : SizeT), ([] : List UInt8))].map Prod.fst).Pairwise (· ≥ ·)) ∧
      (¬ b.Grows 2 → (b.acquire 2).1.buffer = b.buffer) ∧ KeepsStorage (b.cycle 2 2 []) [(1, [])] :=
  ⟨⟨.ofData _ _ _, by decide, by decide, by decide⟩,
    narrowing_grows_at_most_first (.ofData _ _ _) (by decide) 2 [] [(1, [])] (by decide) (by decide)⟩

/-- Without the no-wrap condition the storage changes twice: `Buffer({7}, 1, 0)` after
`acquire(SIZE_MAX)` / `commit(SIZE_MAX)`, then two narrowing cycles. -/
theorem narrowing_grows_twice :
    let b : Buffer := (ofData [7] 1 0).cycle (BitVec.allOnes 64) (BitVec.allOnes 64) []
    Reachable b ∧ 2 ≤ b.size ∧ (b.acquire 2).1.buffer ≠ b.buffer ∧
      ((b.cycle 2 2 []).acquire 2).1.buffer ≠ (b.cycle 2 2 []).buffer :=
  ⟨.cycle _ _ _ (BitVec.le_refl _) (by decide) (.ofData _ _ _), by decide, by decide, by decide⟩

end Buffer

end Coro.Core
