import Mathlib

/-!
The byte store of `coro::core::Buffer`: a vector of bytes with a committed region
`[m_offset, m_offset + m_size)`, and the reservation protocol `acquire` / `commit`. Every size is
a `size_t`, so the arithmetic wraps at `2^64`.
-/

namespace Coro.Core

/-- `size_t` of the 64-bit targets. -/
abbrev SizeT := BitVec 64

/-- `std::vector<uint8_t>::resize`: truncate, or pad with zero bytes. -/
def resize (bytes : List UInt8) (count : Nat) : List UInt8 :=
  bytes.take count ++ List.replicate (count - bytes.length) 0

/-- Stores of the bytes `w` from position `p` on; a store past the end of `bytes` is lost. -/
def writeBytes (bytes : List UInt8) (p : Nat) (w : List UInt8) : List UInt8 :=
  (bytes.take p ++ w ++ bytes.drop (p + w.length)).take bytes.length

/-- The bytes `[p, p + n)` of `bytes`, as far as they exist. -/
def readBytes (bytes : List UInt8) (p n : Nat) : List UInt8 :=
  (bytes.drop p).take n

@[simp] theorem length_resize (bytes : List UInt8) (count : Nat) :
    (resize bytes count).length = count := by
  simp only [resize, List.length_append, List.length_take, List.length_replicate]
  omega

theorem prefix_resize {bytes : List UInt8} {count : Nat} (larger : bytes.length ≤ count) :
    bytes <+: resize bytes count := by
  simp only [resize, List.take_of_length_le larger]
  exact List.prefix_append _ _

@[simp] theorem length_writeBytes (bytes : List UInt8) (p : Nat) (w : List UInt8) :
    (writeBytes bytes p w).length = bytes.length := by
  simp only [writeBytes, List.length_take, List.length_append, List.length_drop]
  omega

theorem writeBytes_of_inside {bytes : List UInt8} {p : Nat} {w : List UInt8}
    (inside : p + w.length ≤ bytes.length) :
    writeBytes bytes p w = bytes.take p ++ w ++ bytes.drop (p + w.length) := by
  apply List.take_of_length_le
  simp only [List.length_append, List.length_take, List.length_drop]
  omega

theorem readBytes_writeBytes {bytes : List UInt8} {p : Nat} {w : List UInt8}
    (inside : p + w.length ≤ bytes.length) : readBytes (writeBytes bytes p w) p w.length = w := by
  have front : (bytes.take p).length = p := by simp only [List.length_take]; omega
  simp [readBytes, writeBytes_of_inside inside, List.append_assoc, List.drop_left' front]

@[simp] theorem readBytes_zero (bytes : List UInt8) (n : Nat) : readBytes bytes 0 n = bytes.take n := by
  rw [readBytes, List.drop_zero]

theorem readBytes_length {bytes : List UInt8} {p n : Nat} (inside : p + n ≤ bytes.length) :
    (readBytes bytes p n).length = n := by
  simp only [readBytes, List.length_take, List.length_drop]
  omega

theorem readBytes_of_prefix {shorter longer : List UInt8} {p n : Nat} (extends_ : shorter <+: longer)
    (inside : p + n ≤ shorter.length) : readBytes longer p n = readBytes shorter p n := by
  obtain ⟨rest, rfl⟩ := extends_
  simp only [readBytes, List.drop_append_of_le_length (show p ≤ shorter.length by omega)]
  exact List.take_append_of_le_length (by simp only [List.length_drop]; omega)

theorem getElem?_writeBytes (bytes : List UInt8) (p : Nat) (w : List UInt8) (j : Nat) :
    (writeBytes bytes p w)[j]? =
      if j < bytes.length then (if p ≤ j ∧ j < p + w.length then w[j - p]? else bytes[j]?) else none := by
  unfold writeBytes
  rw [List.getElem?_take]
  split_ifs with inside window
  · have front : (bytes.take p).length = p := by simp only [List.length_take]; omega
    rw [List.append_assoc, List.getElem?_append_right (by omega), List.getElem?_append_left (by omega),
      front]
  · rcases Nat.lt_or_ge j p with before | after
    · rw [List.append_assoc, List.getElem?_append_left (by simp only [List.length_take]; omega),
        List.getElem?_take_of_lt before]
    · have front : (bytes.take p).length = p := by simp only [List.length_take]; omega
      rw [List.getElem?_append_right (by simp only [List.length_append]; omega), List.getElem?_drop]
      simp only [List.length_append, front]
      congr 1
      omega
  · rfl

theorem readBytes_writeBytes_of_disjoint {bytes : List UInt8} {p q n : Nat} {w : List UInt8}
    (disjoint : q + n ≤ p ∨ p + w.length ≤ q) :
    readBytes (writeBytes bytes p w) q n = readBytes bytes q n := by
  apply List.ext_getElem?
  intro j
  simp only [readBytes, List.getElem?_take, List.getElem?_drop, getElem?_writeBytes]
  split_ifs <;> first | rfl | omega | exact (List.getElem?_eq_none (by omega)).symm

theorem writeBytes_append (bytes : List UInt8) (p : Nat) (first rest : List UInt8) :
    writeBytes (writeBytes bytes p first) (p + first.length) rest = writeBytes bytes p (first ++ rest) := by
  apply List.ext_getElem?
  intro j
  simp only [getElem?_writeBytes, length_writeBytes, List.length_append]
  split_ifs <;> first
    | rfl | omega
    | exact (List.getElem?_append_left (by omega)).symm
    | (rw [List.getElem?_append_right (by omega)]; congr 1; omega)

theorem readBytes_readBytes (bytes : List UInt8) {q n p k : Nat} (inside : p + k ≤ n) :
    readBytes (readBytes bytes q n) p k = readBytes bytes (q + p) k := by
  apply List.ext_getElem?
  intro j
  simp only [readBytes, List.getElem?_take, List.getElem?_drop]
  split_ifs <;> first | rfl | omega | rw [Nat.add_assoc]

/-- The fields of `coro::core::Buffer`. The storage of a `std::vector` is indexed by
`size_t`, so it holds fewer than `2^64` bytes. -/
structure Buffer where
  buffer : List UInt8
  offset : SizeT
  size : SizeT
  acquiredOffset : SizeT
  fits : buffer.length < 2 ^ 64
deriving DecidableEq, Repr

namespace Buffer

/-- `Buffer(size)`: `size` zero bytes of storage, nothing committed. -/
def ofSize (size : SizeT) : Buffer where
  buffer := List.replicate size.toNat 0
  offset := 0
  size := 0
  acquiredOffset := 0
  fits := by simpa only [List.length_replicate] using size.isLt

/-- `Buffer(data, size, reservedSize)`: storage for `max(size, reservedSize)` bytes whose
first `size` are copied from `data` and committed. -/
def ofData (data : List UInt8) (size reservedSize : SizeT) : Buffer where
  buffer := writeBytes (List.replicate (max size.toNat reservedSize.toNat) 0) 0 (data.take size.toNat)
  offset := 0
  size := size
  acquiredOffset := 0
  fits := by
    simp only [length_writeBytes, List.length_replicate]
    exact max_lt size.isLt reservedSize.isLt

/-- `m_buffer.size()`. -/
def bufferSize (b : Buffer) : SizeT := BitVec.ofNat 64 b.buffer.length

theorem bufferSize_toNat (b : Buffer) : b.bufferSize.toNat = b.buffer.length := Nat.mod_eq_of_lt b.fits

/-- `data()[0, size())`: the committed bytes. -/
def data (b : Buffer) : List UInt8 := readBytes b.buffer b.offset.toNat b.size.toNat

@[simp] theorem ofData_offset (data : List UInt8) (size reservedSize : SizeT) :
    (ofData data size reservedSize).offset = 0 := rfl

@[simp] theorem ofData_size (data : List UInt8) (size reservedSize : SizeT) :
    (ofData data size reservedSize).size = size := rfl

theorem ofData_contained (data : List UInt8) (size reservedSize : SizeT) :
    (ofData data size reservedSize).offset.toNat + (ofData data size reservedSize).size.toNat ≤
      (ofData data size reservedSize).buffer.length := by
  simp [ofData]

theorem ofData_data {data : List UInt8} {size : SizeT} (reservedSize : SizeT)
    (enough : size.toNat ≤ data.length) :
    (ofData data size reservedSize).data = data.take size.toNat := by
  have copied : (data.take size.toNat).length = size.toNat := List.length_take_of_le enough
  have inside : 0 + (data.take size.toNat).length ≤
      (List.replicate (max size.toNat reservedSize.toNat) (0 : UInt8)).length := by
    rw [copied, List.length_replicate]; omega
  have stored := readBytes_writeBytes inside
  rwa [copied] at stored

/-- `sizeAtBack` of `acquire`: `m_buffer.size() - m_offset - m_size` in `size_t`. -/
def sizeAtBack (b : Buffer) : SizeT := b.bufferSize - b.offset - b.size

/-- `acquire(size)`: the buffer afterwards, and the storage position of the window it
hands out (`m_buffer.data()` is position 0). -/
def acquire (b : Buffer) (size : SizeT) : Buffer × Nat :=
  if size ≤ b.offset then (b, 0)
  else if size ≤ b.sizeAtBack then
    ({ b with acquiredOffset := b.offset + b.size }, (b.offset + b.size).toNat)
  else
    ({ b with
        buffer := resize b.buffer (b.bufferSize - b.sizeAtBack + size).toNat
        acquiredOffset := b.offset + b.size
        fits := by simpa only [length_resize] using BitVec.isLt _ },
      (b.offset + b.size).toNat)

/-- `commit(size)`: publish `size` bytes from the last acquired offset on. -/
def commit (b : Buffer) (size : SizeT) : Buffer :=
  { b with offset := b.acquiredOffset, size := size }

/-- The caller's stores of `w` from storage position `p` on. -/
def write (b : Buffer) (p : Nat) (w : List UInt8) : Buffer :=
  { b with
    buffer := writeBytes b.buffer p w
    fits := by simpa only [length_writeBytes] using b.fits }

/-- One reservation: `acquire(n)`, the caller writes `w` into the window, `commit(m)`. -/
def cycle (b : Buffer) (n m : SizeT) (w : List UInt8) : Buffer :=
  ((b.acquire n).1.write (b.acquire n).2 w).commit m

/-- `acquire(n)` found room neither in front of nor behind the committed region. -/
def Grows (b : Buffer) (n : SizeT) : Prop := ¬ n ≤ b.offset ∧ ¬ n ≤ b.sizeAtBack

instance (b : Buffer) (n : SizeT) : Decidable (b.Grows n) :=
  inferInstanceAs (Decidable (¬ n ≤ b.offset ∧ ¬ n ≤ b.sizeAtBack))

/-! What one call does to each field. -/

@[simp] theorem acquire_offset (b : Buffer) (n : SizeT) : (b.acquire n).1.offset = b.offset := by
  unfold acquire; split_ifs <;> rfl

@[simp] theorem acquire_size (b : Buffer) (n : SizeT) : (b.acquire n).1.size = b.size := by
  unfold acquire; split_ifs <;> rfl

theorem acquire_buffer (b : Buffer) (n : SizeT) :
    (b.acquire n).1.buffer =
      if b.Grows n then resize b.buffer (b.bufferSize - b.sizeAtBack + n).toNat else b.buffer := by
  unfold acquire Grows; split_ifs <;> first | rfl | (exfalso; tauto)

theorem acquire_acquiredOffset (b : Buffer) (n : SizeT) :
    (b.acquire n).1.acquiredOffset = if n ≤ b.offset then b.acquiredOffset else b.offset + b.size := by
  unfold acquire; split_ifs <;> rfl

theorem acquire_position (b : Buffer) (n : SizeT) :
    (b.acquire n).2 = if n ≤ b.offset then 0 else (b.offset + b.size).toNat := by
  unfold acquire; split_ifs <;> rfl

@[simp] theorem commit_buffer (b : Buffer) (m : SizeT) : (b.commit m).buffer = b.buffer := rfl
@[simp] theorem commit_offset (b : Buffer) (m : SizeT) : (b.commit m).offset = b.acquiredOffset := rfl
@[simp] theorem commit_size (b : Buffer) (m : SizeT) : (b.commit m).size = m := rfl
@[simp] theorem commit_acquiredOffset (b : Buffer) (m : SizeT) :
    (b.commit m).acquiredOffset = b.acquiredOffset := rfl

@[simp] theorem write_buffer (b : Buffer) (p : Nat) (w : List UInt8) :
    (b.write p w).buffer = writeBytes b.buffer p w := rfl
@[simp] theorem write_offset (b : Buffer) (p : Nat) (w : List UInt8) :
    (b.write p w).offset = b.offset := rfl
@[simp] theorem write_size (b : Buffer) (p : Nat) (w : List UInt8) : (b.write p w).size = b.size := rfl
@[simp] theorem write_acquiredOffset (b : Buffer) (p : Nat) (w : List UInt8) :
    (b.write p w).acquiredOffset = b.acquiredOffset := rfl

theorem write_write (b : Buffer) (p : Nat) (first rest : List UInt8) :
    (b.write p first).write (p + first.length) rest = b.write p (first ++ rest) := by
  simp only [write, writeBytes_append]

/-! The contract of `acquire` on a buffer whose committed region lies in its storage. -/

section Contained

variable {b : Buffer} (contained : b.offset.toNat + b.size.toNat ≤ b.buffer.length)
include contained

theorem sizeAtBack_toNat : b.sizeAtBack.toNat = b.buffer.length - b.offset.toNat - b.size.toNat := by
  have front : (b.bufferSize - b.offset).toNat = b.buffer.length - b.offset.toNat := by
    rw [BitVec.toNat_sub_of_le (by rw [BitVec.le_def, bufferSize_toNat]; omega), bufferSize_toNat]
  rw [sizeAtBack, BitVec.toNat_sub_of_le (by rw [BitVec.le_def, front]; omega), front]

theorem offset_add_size_toNat : (b.offset + b.size).toNat = b.offset.toNat + b.size.toNat :=
  BitVec.toNat_add_of_lt (lt_of_le_of_lt contained b.fits)

theorem grown_toNat {n : SizeT} (noWrap : b.offset.toNat + b.size.toNat + n.toNat < 2 ^ 64) :
    (b.bufferSize - b.sizeAtBack + n).toNat = b.offset.toNat + b.size.toNat + n.toNat := by
  have back := sizeAtBack_toNat contained
  have behind : (b.bufferSize - b.sizeAtBack).toNat = b.offset.toNat + b.size.toNat := by
    rw [BitVec.toNat_sub_of_le (by rw [BitVec.le_def, bufferSize_toNat, back]; omega), bufferSize_toNat, back]
    omega
  rw [BitVec.toNat_add_of_lt (by rw [behind]; exact noWrap), behind]

theorem acquire_of_behind {n : SizeT} (behind : ¬ n ≤ b.offset) :
    (b.acquire n).2 = b.offset.toNat + b.size.toNat ∧ (b.acquire n).1.acquiredOffset = b.offset + b.size := by
  rw [acquire_position, acquire_acquiredOffset, if_neg behind, if_neg behind, offset_add_size_toNat contained]
  exact ⟨rfl, rfl⟩

section Request

variable {n : SizeT} (noWrap : b.offset.toNat + b.size.toNat + n.toNat < 2 ^ 64)
include noWrap

theorem acquire_extends : b.buffer <+: (b.acquire n).1.buffer := by
  rw [acquire_buffer]
  split_ifs with grows
  · have back := sizeAtBack_toNat contained
    exact prefix_resize (by rw [grown_toNat contained noWrap]; unfold Grows at grows; bv_omega)
  · exact List.prefix_refl _

theorem acquire_data : (b.acquire n).1.data = b.data := by
  simpa only [data, acquire_offset, acquire_size] using
    readBytes_of_prefix (acquire_extends contained noWrap) contained

theorem acquire_window :
    ((b.acquire n).2 + n.toNat ≤ (b.acquire n).1.buffer.length ∧
      ((b.acquire n).2 + n.toNat ≤ b.offset.toNat ∨ b.offset.toNat + b.size.toNat ≤ (b.acquire n).2)) ∧
      ((b.acquire n).1.buffer = b.buffer ∨
        (¬ n.toNat ≤ b.offset.toNat ∧ b.buffer.length - b.offset.toNat - b.size.toNat < n.toNat ∧
          (b.acquire n).1.buffer.length = b.offset.toNat + b.size.toNat + n.toNat)) := by
  have back := sizeAtBack_toNat contained
  have sum := offset_add_size_toNat contained
  rw [acquire_position, acquire_buffer]
  by_cases front : n ≤ b.offset
  · rw [if_pos front, if_neg (fun grows => grows.1 front)]
    refine ⟨⟨?_, .inl ?_⟩, .inl rfl⟩ <;> bv_omega
  · by_cases room : n ≤ b.sizeAtBack
    · rw [if_neg front, if_neg (fun grows => grows.2 room)]
      refine ⟨⟨?_, .inr ?_⟩, .inl rfl⟩ <;> bv_omega
    · rw [if_neg front, if_pos ⟨front, room⟩, length_resize, grown_toNat contained noWrap]
      refine ⟨⟨?_, .inr ?_⟩, .inr ⟨?_, ?_, rfl⟩⟩ <;> bv_omega

end Request

end Contained

/-- What `acquire(n)` promises: the committed bytes stay, and the window lies in the storage, outside
the committed region. -/
structure AcquireContract (b : Buffer) (n : SizeT) : Prop where
  keeps_offset : (b.acquire n).1.offset = b.offset
  keeps_size : (b.acquire n).1.size = b.size
  keeps_bytes : b.buffer <+: (b.acquire n).1.buffer
  keeps_data : (b.acquire n).1.data = b.data
  window_inside : (b.acquire n).2 + n.toNat ≤ (b.acquire n).1.buffer.length
  window_outside :
    (b.acquire n).2 + n.toNat ≤ b.offset.toNat ∨ b.offset.toNat + b.size.toNat ≤ (b.acquire n).2
  grows_only_when_full : (b.acquire n).1.buffer = b.buffer ∨
    (¬ n.toNat ≤ b.offset.toNat ∧ b.buffer.length - b.offset.toNat - b.size.toNat < n.toNat ∧
      (b.acquire n).1.buffer.length = b.offset.toNat + b.size.toNat + n.toNat)

/-- `acquire(n)` keeps its contract on a buffer whose committed region lies in its storage, for
a request whose grown size `m_offset + m_size + n` fits in `size_t`. -/
theorem acquire_keeps_committed (b : Buffer) (n : SizeT)
    (contained : b.offset.toNat + b.size.toNat ≤ b.buffer.length)
    (noWrap : b.offset.toNat + b.size.toNat + n.toNat < 2 ^ 64) : AcquireContract b n :=
  have window := acquire_window contained noWrap
  ⟨acquire_offset b n, acquire_size b n, acquire_extends contained noWrap, acquire_data contained noWrap,
    window.1.1, window.1.2, window.2⟩

/-- `Buffer({1, 2}, 2, 4)` and a one-byte request meet both conditions. -/
theorem acquire_keeps_committed_at_back :
    let b : Buffer := ofData [1, 2] 2 4
    (b.offset.toNat + b.size.toNat ≤ b.buffer.length ∧
      b.offset.toNat + b.size.toNat + (1 : SizeT).toNat < 2 ^ 64) ∧ AcquireContract b 1 :=
  ⟨⟨by decide, by decide⟩, acquire_keeps_committed _ _ (by decide) (by decide)⟩

/-- For a request so large that `m_offset + m_size + n` wraps, the grow branch shrinks the
storage: `Buffer({7}, 1, 0)` loses its committed byte to `acquire(SIZE_MAX)`. -/
theorem acquire_max_shrinks :
    let b : Buffer := ofData [7] 1 0
    b.offset.toNat + b.size.toNat ≤ b.buffer.length ∧
      (b.acquire (BitVec.allOnes 64)).1.buffer.length < b.buffer.length ∧
      (b.acquire (BitVec.allOnes 64)).1.data ≠ b.data := by
  decide

end Buffer

end Coro.Core
