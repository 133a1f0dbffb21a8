import Coro.Audio.AudioTypes
import Coro.Audio.Sample
import Coro.Core.BufferRun

/-!
`AudioConverter<int16_t, float>::process` and `AudioConverter<float, int16_t>::process`: one
reservation cycle of the buffer each, `acquire`, a sample loop from `data()` into the window,
and `commit`.
-/

namespace Coro.Audio

open Coro.Core Coro.Core.Buffer

/-- The `count` samples of `width` bytes from position `p` on, in order. -/
def readSamples (bytes : List UInt8) (p width : Nat) : Nat → List (List UInt8)
  | 0 => []
  | count + 1 => readBytes bytes p width :: readSamples bytes (p + width) width count

/-- The sample loop of both converters; `none` from the first undefined conversion on. -/
def convertSamples (convert : List UInt8 → Option (List UInt8)) (inWidth outWidth : Nat) :
    Nat → Buffer → Nat → Nat → Option Buffer
  | 0, b, _, _ => some b
  | count + 1, b, toPos, fromPos => do
    let sample ← convert (readBytes b.buffer fromPos inWidth)
    convertSamples convert inWidth outWidth count (b.write toPos sample) (toPos + outWidth)
      (fromPos + inWidth)

/-- `*to = *from / 32768.0` on the bytes of one `int16_t` sample: the float's four bytes. -/
def widenSample (sample : List UInt8) : List UInt8 := float32Bytes (widenBits (int16Value sample))

@[simp] theorem length_widenSample (sample : List UInt8) : (widenSample sample).length = 4 := rfl

/-- `*to = (int16_t)((*from) * 32768.0f)` on the bytes of one `float` sample. -/
def narrowBytes (sample : List UInt8) : Option (List UInt8) :=
  (narrowSample (float32BitsOf sample)).map int16Bytes

/-- `AudioConverter<InT, OutT>::process` of the two specialisations; `none` where the C++ is undefined. -/
def AudioConverter.process (convert : List UInt8 → Option (List UInt8)) (inWidth outWidth : Nat)
    (outSize : SizeT → SizeT) (codec : AudioCodec) (conf : AudioConf) (buffer : Buffer) :
    Option (AudioConf × Buffer) :=
  let (b, toPos) := buffer.acquire (outSize buffer.size)
  if conf.codec.size = 0 then none
  else
    (convertSamples convert inWidth outWidth (b.size.toNat / conf.codec.size) b toPos b.offset.toNat).map
      fun b => ({ conf with codec := codec }, b.commit (outSize b.size))

/-- `AudioConverter<int16_t, float>::process`: `*to = *from / 32768.0`, room for `size() * 2`. -/
def widen : AudioConf → Buffer → Option (AudioConf × Buffer) :=
  AudioConverter.process (fun sample => some (widenSample sample)) 2 4 (fun size => size * 2) .rawFloat32

/-- `AudioConverter<float, int16_t>::process`: `*to = (int16_t)((*from) * 32768.0f)`, room for
`size() / 2`; undefined for a sample outside the `int16_t` range. -/
def narrow : AudioConf → Buffer → Option (AudioConf × Buffer) :=
  AudioConverter.process narrowBytes 4 2 (fun size => size / 2) .rawInt16

/-- Both converters on one sample `1` in `Buffer({1, 0}, 2, 0)`: the narrowing writes `{1, 0}` at
position 0, but `commit` publishes offset 2, the first two bytes of the float. -/
theorem round_trip_publishes_float_bytes :
    let conf : AudioConf := ⟨.rawInt16, .rate44100, .stereo⟩
    ((widen conf (Buffer.ofData [1, 0] 2 0)).bind fun r => narrow r.1 r.2).map
        (fun r => (r.1.codec, r.2.size, r.2.buffer, r.2.data)) =
      some (.rawInt16, 2, [1, 0, 0, 0, 0, 0x38], [0, 0]) := by
  decide

/-! The samples the loop reads. -/

@[simp] theorem length_readSamples (bytes : List UInt8) (width : Nat) :
    ∀ count p, (readSamples bytes p width count).length = count
  | 0, _ => rfl
  | count + 1, p => congrArg (· + 1) (length_readSamples bytes width count (p + width))

theorem readSamples_widths {bytes : List UInt8} {width : Nat} :
    ∀ count p, p + width * count ≤ bytes.length →
      ∀ s ∈ readSamples bytes p width count, s.length = width
  | 0, _, _ => fun _ member => nomatch member
  | count + 1, p, inside => by
    rw [Nat.mul_succ] at inside
    intro s member
    rcases List.mem_cons.mp member with first | later
    · rw [first]; exact readBytes_length (by omega)
    · exact readSamples_widths count (p + width) (by omega) s later

theorem readSamples_writeBytes_of_disjoint {bytes : List UInt8} {q width : Nat} {w : List UInt8} :
    ∀ count p, q + w.length ≤ p ∨ p + width * count ≤ q →
      readSamples (writeBytes bytes q w) p width count = readSamples bytes p width count
  | 0, _, _ => rfl
  | count + 1, p, disjoint => by
    rw [Nat.mul_succ] at disjoint
    rw [readSamples, readSamples, readBytes_writeBytes_of_disjoint (by omega),
      readSamples_writeBytes_of_disjoint count (p + width) (by omega)]

theorem readSamples_readBytes (bytes : List UInt8) {q n width : Nat} :
    ∀ count p, p + width * count ≤ n →
      readSamples (readBytes bytes q n) p width count = readSamples bytes (q + p) width count
  | 0, _, _ => rfl
  | count + 1, p, inside => by
    rw [Nat.mul_succ] at inside
    rw [readSamples, readSamples, readBytes_readBytes bytes (by omega),
      readSamples_readBytes bytes count (p + width) (by omega), Nat.add_assoc]

theorem readSamples_append (front bytes : List UInt8) (width : Nat) :
    ∀ count p, readSamples (front ++ bytes) (front.length + p) width count = readSamples bytes p width count
  | 0, _ => rfl
  | count + 1, p => by
    rw [readSamples, readSamples, Nat.add_assoc, readSamples_append front bytes width count (p + width)]
    simp only [readBytes, List.drop_append_eq_append_drop, List.drop_eq_nil_of_le (by omega : front.length ≤
      front.length + p), List.length_drop, Nat.add_sub_cancel_left, List.nil_append]

theorem readSamples_flatten {width : Nat} :
    ∀ samples : List (List UInt8), (∀ s ∈ samples, s.length = width) →
      readSamples samples.flatten 0 width samples.length = samples
  | [], _ => rfl
  | s :: rest, widths => by
    have first : s.length = width := widths s (List.mem_cons_self s rest)
    rw [List.flatten_cons, List.length_cons, readSamples, ← first, Nat.zero_add,
      ← Nat.add_zero s.length, readSamples_append, Nat.add_zero, first,
      readSamples_flatten rest fun t member => widths t (List.mem_cons_of_mem s member)]
    simp only [readBytes, List.drop_zero, List.take_left' first]

theorem flatten_readSamples (bytes : List UInt8) {width : Nat} :
    ∀ count p, (readSamples bytes p width count).flatten = readBytes bytes p (width * count)
  | 0, _ => by simp only [readSamples, List.flatten_nil, Nat.mul_zero, readBytes, List.take_zero]
  | count + 1, p => by
    rw [readSamples, List.flatten_cons, flatten_readSamples bytes count (p + width), Nat.mul_succ,
      Nat.add_comm (width * count)]
    simp only [readBytes, List.take_add, List.drop_drop, Nat.add_comm p]

theorem length_flatten_of_widths {width : Nat} :
    ∀ samples : List (List UInt8), (∀ s ∈ samples, s.length = width) →
      samples.flatten.length = width * samples.length
  | [], _ => rfl
  | s :: rest, widths => by
    rw [List.flatten_cons, List.length_append, widths s (List.mem_cons_self s rest),
      length_flatten_of_widths rest fun t member => widths t (List.mem_cons_of_mem s member),
      List.length_cons, Nat.mul_succ, Nat.add_comm]

/-! The loop is one store of all converted samples. -/

theorem mapM_some_eq {α β : Type} (f : α → β) :
    ∀ l : List α, l.mapM (fun a => some (f a)) = some (l.map f)
  | [] => rfl
  | a :: l => by rw [List.mapM_cons, mapM_some_eq f l]; rfl

theorem mapM_map_of_inverse {α β : Type} {f : β → Option α} {g : α → β} :
    ∀ l : List α, (∀ a ∈ l, f (g a) = some a) → (l.map g).mapM f = some l
  | [], _ => rfl
  | a :: l, inverse => by
    rw [List.map_cons, List.mapM_cons, inverse a (List.mem_cons_self a l),
      mapM_map_of_inverse l fun x member => inverse x (List.mem_cons_of_mem a member)]
    rfl

theorem mapM_widths {convert : List UInt8 → Option (List UInt8)} {outWidth : Nat}
    (widths : ∀ sample out, convert sample = some out → out.length = outWidth) :
    ∀ (samples outs : List (List UInt8)), samples.mapM convert = some outs →
      outs.flatten.length = outWidth * samples.length
  | [], outs, done => by
    rw [List.mapM_nil, Option.pure_def, Option.some.injEq] at done
    rw [← done]
    rfl
  | s :: rest, outs, done => by
    rw [List.mapM_cons] at done
    simp only [Option.bind_eq_bind, Option.bind_eq_some, Option.pure_def, Option.some.injEq] at done
    obtain ⟨out, converted, others, convertedRest, rfl⟩ := done
    rw [List.flatten_cons, List.length_append, widths s out converted,
      mapM_widths widths rest others convertedRest, List.length_cons, Nat.mul_succ, Nat.add_comm]

theorem convertSamples_eq {convert : List UInt8 → Option (List UInt8)} {inWidth outWidth : Nat}
    (widths : ∀ sample out, convert sample = some out → out.length = outWidth) :
    ∀ count (b : Buffer) toPos fromPos,
      toPos + outWidth * count ≤ fromPos ∨ fromPos + inWidth * count ≤ toPos →
      convertSamples convert inWidth outWidth count b toPos fromPos =
        ((readSamples b.buffer fromPos inWidth count).mapM convert).map
          fun outs => b.write toPos outs.flatten
  | 0, b, toPos, _, _ => by
    have empty : b.write toPos [] = b := by
      simp only [write, writeBytes, List.append_nil, List.length_nil, Nat.add_zero, List.take_append_drop,
        List.take_length]
    simp only [convertSamples, readSamples, List.mapM_nil, Option.pure_def, Option.map_some',
      List.flatten_nil, empty]
  | count + 1, b, toPos, fromPos, disjoint => by
    simp only [Nat.mul_succ] at disjoint
    rw [convertSamples, readSamples, List.mapM_cons]
    cases converted : convert (readBytes b.buffer fromPos inWidth) with
    | none => rfl
    | some sample =>
      have width := widths _ _ converted
      simp only [Option.bind_eq_bind, Option.some_bind]
      rw [convertSamples_eq widths count _ (toPos + outWidth) (fromPos + inWidth) (by omega), write_buffer,
        readSamples_writeBytes_of_disjoint count (fromPos + inWidth) (by omega)]
      cases (readSamples b.buffer (fromPos + inWidth) inWidth count).mapM convert with
      | none => rfl
      | some outs =>
        simp only [Option.map_some', Option.some_bind, Option.pure_def, List.flatten_cons, ← width,
          write_write]

theorem process_eq_cycle {convert : List UInt8 → Option (List UInt8)} {inWidth outWidth : Nat}
    (widths : ∀ sample out, convert sample = some out → out.length = outWidth)
    {outSize : SizeT → SizeT} (codec : AudioCodec) {conf : AudioConf} {b : Buffer}
    (codecWidth : conf.codec.size = inWidth) (positive : 0 < inWidth)
    (contained : b.offset.toNat + b.size.toNat ≤ b.buffer.length)
    (noWrap : b.offset.toNat + b.size.toNat + (outSize b.size).toNat < 2 ^ 64)
    (fitsWindow : b.size.toNat / inWidth * outWidth ≤ (outSize b.size).toNat) :
    AudioConverter.process convert inWidth outWidth outSize codec conf b =
      ((readSamples b.data 0 inWidth (b.size.toNat / inWidth)).mapM convert).map
        fun outs => ({ conf with codec := codec }, b.cycle (outSize b.size) (outSize b.size) outs.flatten) := by
  have read : inWidth * (b.size.toNat / inWidth) ≤ b.size.toNat := Nat.mul_div_le _ _
  rcases acquired : b.acquire (outSize b.size) with ⟨b', toPos⟩
  have keeps : b'.offset = b.offset ∧ b'.size = b.size ∧ b'.data = b.data := by
    have first : (b.acquire (outSize b.size)).1 = b' := by rw [acquired]
    exact first ▸ ⟨acquire_offset _ _, acquire_size _ _, acquire_data contained noWrap⟩
  have samples : readSamples b'.buffer b.offset.toNat inWidth (b.size.toNat / inWidth) =
      readSamples b.data 0 inWidth (b.size.toNat / inWidth) := by
    rw [← keeps.2.2, data, keeps.1, keeps.2.1, readSamples_readBytes _ _ 0 (by omega), Nat.add_zero]
  have disjoint : toPos + outWidth * (b.size.toNat / inWidth) ≤ b.offset.toNat ∨
      b.offset.toNat + inWidth * (b.size.toNat / inWidth) ≤ toPos := by
    have position : toPos = (b.acquire (outSize b.size)).2 := by rw [acquired]
    rw [position, Nat.mul_comm outWidth]
    by_cases front : outSize b.size ≤ b.offset
    · rw [acquire_position, if_pos front]
      exact .inl (by bv_omega)
    · exact .inr (by rw [(acquire_of_behind contained front).1]; omega)
  simp only [AudioConverter.process, acquired, keeps.1, keeps.2.1, codecWidth,
    Nat.pos_iff_ne_zero.mp positive, if_false]
  rw [convertSamples_eq widths _ b' toPos _ disjoint, samples, Option.map_map]
  congr 1
  funext outs
  simp only [Function.comp, cycle, acquired, write_size, keeps.2.1]

/-! Each converter as a cycle. -/

theorem widen_eq_cycle {conf : AudioConf} {b : Buffer} (int16 : conf.codec = .rawInt16)
    (contained : b.offset.toNat + b.size.toNat ≤ b.buffer.length)
    (noWrap : b.offset.toNat + b.size.toNat + 2 * b.size.toNat < 2 ^ 64) :
    widen conf b = some ({ conf with codec := .rawFloat32 },
      b.cycle (b.size * 2) (b.size * 2)
        ((readSamples b.data 0 2 (b.size.toNat / 2)).map widenSample).flatten) := by
  have doubled : (b.size * 2).toNat = 2 * b.size.toNat := by bv_omega
  rw [widen, process_eq_cycle (fun _ _ converted => by rw [← Option.some.inj converted]; rfl) _
    (by rw [int16]; rfl) (by decide) contained (by rw [doubled]; exact noWrap) (by omega),
    mapM_some_eq]
  rfl

theorem narrow_eq_cycle {conf : AudioConf} {b : Buffer} (float32 : conf.codec = .rawFloat32)
    (contained : b.offset.toNat + b.size.toNat ≤ b.buffer.length)
    (noWrap : b.offset.toNat + b.size.toNat + b.size.toNat / 2 < 2 ^ 64) :
    narrow conf b = ((readSamples b.data 0 4 (b.size.toNat / 4)).mapM narrowBytes).map
      fun outs => ({ conf with codec := .rawInt16 }, b.cycle (b.size / 2) (b.size / 2) outs.flatten) := by
  have halved : (b.size / 2).toNat = b.size.toNat / 2 := by bv_omega
  have widths : ∀ sample out, narrowBytes sample = some out → out.length = 2 := by
    intro sample out converted
    obtain ⟨v, _, stored⟩ := Option.map_eq_some'.mp converted
    rw [← stored, length_int16Bytes]
  exact process_eq_cycle widths _ (by rw [float32]; rfl) (by decide) contained (by rw [halved]; exact noWrap)
    (by omega)

/-- When `acquire` takes the back or grow branch, a converter publishes exactly the converted
samples of `data()`, and fails exactly when one conversion does. -/
theorem process_publishes_behind {convert : List UInt8 → Option (List UInt8)} {inWidth outWidth : Nat}
    (widths : ∀ sample out, convert sample = some out → out.length = outWidth)
    {outSize : SizeT → SizeT} (codec : AudioCodec) {conf : AudioConf} {b : Buffer}
    (codecWidth : conf.codec.size = inWidth) (positive : 0 < inWidth)
    (contained : b.offset.toNat + b.size.toNat ≤ b.buffer.length)
    (noWrap : b.offset.toNat + b.size.toNat + (outSize b.size).toNat < 2 ^ 64)
    (behind : ¬ outSize b.size ≤ b.offset)
    (filled : b.size.toNat / inWidth * outWidth = (outSize b.size).toNat) :
    (AudioConverter.process convert inWidth outWidth outSize codec conf b).map (fun r => (r.1, r.2.data)) =
      ((readSamples b.data 0 inWidth (b.size.toNat / inWidth)).mapM convert).map
        fun outs => ({ conf with codec := codec }, outs.flatten) := by
  rw [process_eq_cycle widths codec codecWidth positive contained noWrap filled.le, Option.map_map]
  cases converted : (readSamples b.data 0 inWidth (b.size.toNat / inWidth)).mapM convert with
  | none => rfl
  | some outs =>
    have written : outs.flatten.length = (outSize b.size).toNat := by
      rw [mapM_widths widths _ outs converted, length_readSamples, Nat.mul_comm, filled]
    simp only [Option.map_some', Function.comp,
      cycle_data_of_behind contained noWrap behind (BitVec.le_refl _) written]

/-- The widening of `Buffer({1, 0}, 2, 0)` meets the conditions. -/
theorem process_publishes_behind_widen :
    let conf : AudioConf := ⟨.rawInt16, .rate44100, .stereo⟩
    let b : Buffer := Buffer.ofData [1, 0] 2 0
    ((∀ sample out, some (widenSample sample) = some out → out.length = 4) ∧ conf.codec.size = 2 ∧ 0 < 2 ∧
      b.offset.toNat + b.size.toNat ≤ b.buffer.length ∧
      b.offset.toNat + b.size.toNat + (b.size * 2).toNat < 2 ^ 64 ∧ ¬ b.size * 2 ≤ b.offset ∧
      b.size.toNat / 2 * 4 = (b.size * 2).toNat) ∧
    (AudioConverter.process (fun sample => some (widenSample sample)) 2 4 (fun size => size * 2) .rawFloat32
        conf b).map (fun r => (r.1, r.2.data)) =
      ((readSamples b.data 0 2 (b.size.toNat / 2)).mapM fun sample => some (widenSample sample)).map
        fun outs => ({ conf with codec := .rawFloat32 }, outs.flatten) :=
  have widths : ∀ sample out, some (widenSample sample) = some out → out.length = 4 :=
    fun _ _ converted => by rw [← Option.some.inj converted]; rfl
  ⟨⟨widths, rfl, by decide, by decide, by decide, by decide, by decide⟩,
    process_publishes_behind widths .rawFloat32 rfl (by decide) (by decide) (by decide) (by decide)
      (by decide)⟩

theorem widen_fresh {conf : AudioConf} (int16 : conf.codec = .rawInt16) {data : List UInt8}
    (reservedSize : SizeT) {k : Nat} {size : SizeT} (sizeNat : size.toNat = 2 * k) (positive : 0 < k)
    (enough : 2 * k ≤ data.length) (small : k < 2 ^ 61) :
    ∃ widened, widen conf (Buffer.ofData data size reservedSize) =
        some ({ conf with codec := .rawFloat32 }, widened) ∧
      widened.offset.toNat = 2 * k ∧ widened.acquiredOffset = widened.offset ∧
      widened.size.toNat = 4 * k ∧
      widened.offset.toNat + widened.size.toNat ≤ widened.buffer.length ∧
      widened.data = ((readSamples data 0 2 k).map widenSample).flatten := by
  let b := Buffer.ofData data size reservedSize
  have contained : b.offset.toNat + b.size.toNat ≤ b.buffer.length := ofData_contained _ _ _
  have samples : readSamples b.data 0 2 (b.size.toNat / 2) = readSamples data 0 2 k := by
    rw [ofData_data _ (by rw [sizeNat]; exact enough), ofData_size, sizeNat,
      Nat.mul_div_cancel_left k (by decide), ← readBytes_zero data (2 * k),
      @readSamples_readBytes data 0 (2 * k) 2 k 0 (by omega)]
  have floats : ((readSamples data 0 2 k).map widenSample).flatten.length = 4 * k := by
    rw [@length_flatten_of_widths 4 _ fun s member => by
      obtain ⟨t, _, rfl⟩ := List.mem_map.mp member; rfl, List.length_map, length_readSamples]
  have offset : b.offset.toNat = 0 := rfl
  have size : b.size.toNat = 2 * k := sizeNat
  have noWrap : b.offset.toNat + b.size.toNat + (b.size * 2).toNat < 2 ^ 64 := by bv_omega
  have behind : ¬ b.size * 2 ≤ b.offset := by bv_omega
  obtain ⟨cycleOffset, cycleContained⟩ := cycle_of_behind contained noWrap behind (BitVec.le_refl _)
    ((readSamples data 0 2 k).map widenSample).flatten
  refine ⟨_, by rw [widen_eq_cycle int16 contained (by bv_omega), samples], by omega, rfl,
    by rw [cycle_size]; bv_omega, cycleContained,
    cycle_data_of_behind contained noWrap behind (BitVec.le_refl _) (by rw [floats]; bv_omega)⟩

/-- For every `k ≥ 1` samples in a fresh `Buffer(data, 2k, reservedSize)`, the round trip restores
the samples at `[0, 2k)` but publishes the first `2k` bytes of the floats. -/
theorem round_trip_restores_in_front (conf : AudioConf) (int16 : conf.codec = .rawInt16)
    (data : List UInt8) (reservedSize : SizeT) (k : Nat) (positive : 0 < k) (enough : 2 * k ≤ data.length)
    (small : k < 2 ^ 61) :
    ((widen conf (Buffer.ofData data (BitVec.ofNat 64 (2 * k)) reservedSize)).bind fun r => narrow r.1 r.2).map
        (fun r => (r.1, r.2.buffer.take (2 * k), r.2.data)) =
      some (conf, data.take (2 * k), ((readSamples data 0 2 k).map widenSample).flatten.take (2 * k)) := by
  have sizeNat : (BitVec.ofNat 64 (2 * k)).toNat = 2 * k := by rw [BitVec.toNat_ofNat]; omega
  obtain ⟨widened, widening, offset, settled, size, contained, floats⟩ :=
    widen_fresh int16 reservedSize sizeNat positive enough small
  have restored : (readSamples widened.data 0 4 (widened.size.toNat / 4)).mapM narrowBytes =
      some (readSamples data 0 2 k) := by
    have count : widened.size.toNat / 4 = ((readSamples data 0 2 k).map widenSample).length := by
      rw [size, List.length_map, length_readSamples]; omega
    rw [count, floats, readSamples_flatten _ fun s member => by
      obtain ⟨t, _, rfl⟩ := List.mem_map.mp member; rfl]
    exact mapM_map_of_inverse _ fun s member =>
      narrow_widened_bytes (readSamples_widths k 0 (by omega) s member)
  have conf' : { { conf with codec := .rawFloat32 } with codec := .rawInt16 } = conf := by
    cases conf
    simp only at int16
    rw [int16]
  have half : (widened.size / 2).toNat = 2 * k := by
    rw [BitVec.toNat_udiv, size, show (2 : SizeT).toNat = 2 from rfl]; omega
  have front : widened.size / 2 ≤ widened.offset := by rw [BitVec.le_def, half, offset]
  have stored : (data.take (2 * k)).length = 2 * k := List.length_take_of_le enough
  obtain ⟨buffer, published⟩ := front_cycle_data front (widened.size / 2)
    (by rw [settled, offset, stored] : (data.take (2 * k)).length ≤ widened.acquiredOffset.toNat)
  rw [widening, Option.some_bind, narrow_eq_cycle rfl contained (by omega), restored, Option.map_some',
    Option.map_some', flatten_readSamples, readBytes_zero, conf']
  dsimp only
  rw [buffer, published, writeBytes_of_inside (by omega), List.take_zero, List.nil_append, Nat.zero_add,
    List.take_left' stored, settled, offset, half, ← floats, Buffer.data, offset, size,
    ← readBytes_zero (readBytes widened.buffer (2 * k) (4 * k)), readBytes_readBytes _ (by omega),
    Nat.add_zero]

/-- One sample `{1, 0}` with no reserve meets the conditions. -/
theorem round_trip_restores_in_front_one :
    let conf : AudioConf := ⟨.rawInt16, .rate44100, .stereo⟩
    let data : List UInt8 := [1, 0]
    (conf.codec = .rawInt16 ∧ 0 < 1 ∧ 2 * 1 ≤ data.length ∧ 1 < 2 ^ 61) ∧
      ((widen conf (Buffer.ofData data (BitVec.ofNat 64 (2 * 1)) 0)).bind fun r => narrow r.1 r.2).map
          (fun r => (r.1, r.2.buffer.take (2 * 1), r.2.data)) =
        some (conf, data.take (2 * 1), ((readSamples data 0 2 1).map widenSample).flatten.take (2 * 1)) :=
  ⟨⟨rfl, by decide, by decide, by decide⟩,
    round_trip_restores_in_front _ rfl _ 0 1 (by decide) (by decide) (by decide)⟩

end Coro.Audio
