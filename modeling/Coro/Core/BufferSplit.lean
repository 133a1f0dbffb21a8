import Coro.Core.BufferRun

/-!
`Buffer::split<T>(size)`: one `size`-byte view per iteration of
`for (size_t i = 0; i < m_size; i += size)`. With `size = 0` the loop never ends, so the model
runs it on fuel.
-/

namespace Coro.Core

namespace Buffer

/-- `T(m_buffer.data() + m_offset + i, size)`: a view of `size` bytes from storage position
`m_offset + i` on. -/
structure Chunk where
  position : Nat
  size : SizeT
deriving DecidableEq, Repr

/-- The bytes a chunk views. -/
def Chunk.bytes (b : Buffer) (chunk : Chunk) : List UInt8 :=
  readBytes b.buffer chunk.position chunk.size.toNat

/-- The loop of `split(size)` from `i` on, for at most `fuel` tests of `i < m_size`;
`none` when the fuel runs out first. -/
def splitLoop (b : Buffer) (size : SizeT) : Nat → SizeT → Option (List Chunk)
  | 0, _ => none
  | fuel + 1, i =>
    if i < b.size then (splitLoop b size fuel (i + size)).map (⟨b.offset.toNat + i.toNat, size⟩ :: ·)
    else some []

/-- `split(size)`, run for at most `fuel` tests of the loop condition. -/
def split (b : Buffer) (size : SizeT) (fuel : Nat) : Option (List Chunk) := splitLoop b size fuel 0

/-- `⌈committed / size⌉`, the number of views `split` emits. -/
def chunkCount (committed size : Nat) : Nat := (committed + size - 1) / size

theorem lt_chunkCount_iff {committed size k : Nat} (positive : 0 < size) :
    k < chunkCount committed size ↔ k * size < committed := by
  rw [chunkCount, Nat.lt_iff_add_one_le, Nat.le_div_iff_mul_le positive, Nat.succ_mul]
  omega

theorem chunkCount_mul_bounds {committed size : Nat} (positive : 0 < size) :
    committed ≤ chunkCount committed size * size ∧ chunkCount committed size * size < committed + size := by
  have below := (@lt_chunkCount_iff committed size (chunkCount committed size) positive).not.mp
    (lt_irrefl _)
  rcases Nat.eq_zero_or_pos (chunkCount committed size) with zero | pos
  · rw [zero] at below ⊢; omega
  · have last := (@lt_chunkCount_iff committed size (chunkCount committed size - 1) positive).mp
      (by omega)
    rw [Nat.sub_one_mul] at last
    omega

theorem splitLoop_from {b : Buffer} {size : SizeT} (positive : 0 < size.toNat)
    (noWrap : b.size.toNat + size.toNat ≤ 2 ^ 64) :
    ∀ left k (i : SizeT), i.toNat = k * size.toNat → k + left = chunkCount b.size.toNat size.toNat →
      splitLoop b size (left + 1) i =
        some ((List.range left).map fun j => ⟨b.offset.toNat + (k + j) * size.toNat, size⟩)
  | 0, k, i, start, last => by
    have bounds := @chunkCount_mul_bounds b.size.toNat _ positive
    have past : ¬ i < b.size := by
      rw [BitVec.lt_def, start, Nat.not_lt]
      rw [← last, Nat.add_zero] at bounds
      exact bounds.1
    simp only [splitLoop, if_neg past, List.range_zero, List.map_nil]
  | left + 1, k, i, start, last => by
    have before := (@lt_chunkCount_iff b.size.toNat _ k positive).mp (by omega)
    have inside : i < b.size := by rw [BitVec.lt_def, start]; exact before
    have next : (i + size).toNat = (k + 1) * size.toNat := by
      rw [BitVec.toNat_add_of_lt (by rw [start]; omega), start, Nat.succ_mul]
    rw [splitLoop, if_pos inside, splitLoop_from positive noWrap left (k + 1) (i + size) next (by omega)]
    simp only [Option.map_some', List.range_succ_eq_map, List.map_cons, List.map_map, Nat.add_zero,
      start]
    congr 3
    funext j
    rw [Function.comp_apply, Nat.succ_eq_add_one, ← Nat.add_assoc, Nat.add_right_comm k 1 j]

theorem bytes_consecutive (b : Buffer) (p c : Nat) :
    ∀ count, ((List.range count).map fun j => readBytes b.buffer (p + j * c) c).flatten =
      readBytes b.buffer p (count * c)
  | 0 => by simp [readBytes]
  | count + 1 => by
    rw [List.range_succ, List.map_append, List.flatten_append, bytes_consecutive b p c count,
      List.map_singleton, List.flatten_singleton]
    simp only [readBytes, Nat.succ_mul, List.take_add, List.drop_drop]

theorem splitLoop_zero {b : Buffer} {size : SizeT} (zero : size.toNat = 0) :
    ∀ fuel (i : SizeT), i < b.size → splitLoop b size fuel i = none
  | 0, _, _ => rfl
  | fuel + 1, i, inside => by
    have same : i + size = i := by bv_omega
    rw [splitLoop, if_pos inside, same, splitLoop_zero zero fuel i inside, Option.map_none']

theorem chunkCount_mul_eq_iff {committed size : Nat} (positive : 0 < size) :
    chunkCount committed size * size = committed ↔ size ∣ committed := by
  constructor
  · intro exact_
    exact ⟨chunkCount committed size, exact_.symm.trans (Nat.mul_comm _ _)⟩
  · rintro ⟨q, rfl⟩
    rw [chunkCount, Nat.add_sub_assoc positive, Nat.mul_add_div positive,
      Nat.div_eq_of_lt (Nat.sub_lt positive Nat.one_pos), Nat.add_zero, Nat.mul_comm]

/-- For `size > 0` with no wrap of `i += size`, `split(size)` ends after `⌈m_size / size⌉` views that
tile `[m_offset, m_offset + count·size)`, passing the end by fewer than `size` bytes. -/
theorem split_tiles (b : Buffer) (size : SizeT) :
    (size.toNat = 0 → 0 < b.size.toNat → ∀ fuel, b.split size fuel = none) ∧
    (0 < size.toNat → b.size.toNat + size.toNat ≤ 2 ^ 64 →
      b.split size (chunkCount b.size.toNat size.toNat + 1) =
        some ((List.range (chunkCount b.size.toNat size.toNat)).map
          fun k => ⟨b.offset.toNat + k * size.toNat, size⟩) ∧
      b.size.toNat ≤ chunkCount b.size.toNat size.toNat * size.toNat ∧
      chunkCount b.size.toNat size.toNat * size.toNat < b.size.toNat + size.toNat ∧
      (chunkCount b.size.toNat size.toNat * size.toNat = b.size.toNat ↔ size.toNat ∣ b.size.toNat) ∧
      (((List.range (chunkCount b.size.toNat size.toNat)).map
          fun k => Chunk.bytes b ⟨b.offset.toNat + k * size.toNat, size⟩).flatten).take b.size.toNat =
        b.data) := by
  refine ⟨fun zero committed fuel => splitLoop_zero zero fuel 0 (by bv_omega), ?_⟩
  intro positive noWrap
  have bounds := @chunkCount_mul_bounds b.size.toNat _ positive
  refine ⟨?_, bounds.1, bounds.2, chunkCount_mul_eq_iff positive, ?_⟩
  · simpa only [Nat.zero_add] using
      splitLoop_from positive noWrap _ 0 0 (by simp) (Nat.zero_add _)
  · simp only [Chunk.bytes]
    rw [bytes_consecutive]
    simp only [data, readBytes, List.take_take, Nat.min_eq_left bounds.1]

/-- `Buffer({1, 2, 3, 4, 5}, 5, 0).split(4)` emits a second view `[4, 8)`, three bytes past the
committed region `[0, 5)`. -/
theorem split_overruns :
    let b : Buffer := ofData [1, 2, 3, 4, 5] 5 0
    Reachable b ∧ b.split 4 3 = some [⟨0, 4⟩, ⟨4, 4⟩] ∧ b.offset.toNat + b.size.toNat < 4 + 4 :=
  ⟨.ofData _ _ _, by decide, by decide⟩

end Buffer

end Coro.Core
