import Coro.Core.Buffer

/-!
The sample encodings of the two `AudioConverter` specialisations, `int16_t` and binary32 `float`
as little-endian bytes, and the conversions `*from / 32768.0` and `(int16_t)(*from * 32768.0f)`,
exact on the values they meet; the cast to `int16_t` is undefined outside its range.
-/

namespace Coro.Audio

/-- The little-endian bytes of an `int16_t`. -/
def int16Bytes (v : Int) : List UInt8 :=
  [UInt8.ofNat (v % 65536).toNat, UInt8.ofNat ((v % 65536).toNat / 256)]

/-- The `int16_t` that the first two bytes hold (a missing byte reads as 0). -/
def int16Value (bytes : List UInt8) : Int :=
  let u := (bytes.getD 0 0).toNat + 256 * (bytes.getD 1 0).toNat
  if u < 32768 then u else (u : Int) - 65536

/-- The little-endian bytes of binary32 bits. -/
def float32Bytes (bits : Nat) : List UInt8 :=
  [UInt8.ofNat bits, UInt8.ofNat (bits / 2 ^ 8), UInt8.ofNat (bits / 2 ^ 16), UInt8.ofNat (bits / 2 ^ 24)]

/-- The binary32 bits that the first four bytes hold. -/
def float32BitsOf (bytes : List UInt8) : Nat :=
  (bytes.getD 0 0).toNat + 2 ^ 8 * (bytes.getD 1 0).toNat + 2 ^ 16 * (bytes.getD 2 0).toNat +
    2 ^ 24 * (bytes.getD 3 0).toNat

/-- The position of the highest set bit of `a`, for `0 < a < 2 ^ fuel`. -/
def highBit : Nat → Nat → Nat
  | 0, _ => 0
  | fuel + 1, a => if a < 2 then 0 else highBit fuel (a / 2) + 1

/-- `*from / 32768.0` stored in a `float`: the binary32 bits of `v / 2^15`, computed exactly. -/
def widenBits (v : Int) : Nat :=
  if v = 0 then 0
  else
    let k := highBit 16 v.natAbs
    (if v < 0 then 2 ^ 31 else 0) + (112 + k) * 2 ^ 23 + (v.natAbs - 2 ^ k) * 2 ^ (23 - k)

/-- The value of binary32 bits in units of `2^-149`; `none` for infinities and NaNs. -/
def float32Value (bits : Nat) : Option Int :=
  let exponent := bits / 2 ^ 23 % 256
  let fraction := bits % 2 ^ 23
  let magnitude : Nat := if exponent = 0 then fraction else (2 ^ 23 + fraction) * 2 ^ (exponent - 1)
  if exponent = 255 then none
  else some (if bits / 2 ^ 31 % 2 = 1 then -(magnitude : Int) else magnitude)

/-- `x * 32768` truncated toward zero, for `x` in units of `2^-149`. The product is exact in
`float` whenever it is finite. -/
def truncScaled (x : Int) : Int :=
  if x < 0 then -(((-x).toNat / 2 ^ 134 : Nat) : Int) else ((x.toNat / 2 ^ 134 : Nat) : Int)

/-- `(int16_t)(*from * 32768.0f)`: undefined (`none`) when the truncated product leaves the
`int16_t` range, and for infinities and NaNs. -/
def narrowSample (bits : Nat) : Option Int := do
  let x ← float32Value bits
  if -32768 ≤ truncScaled x ∧ truncScaled x ≤ 32767 then some (truncScaled x) else none

@[simp] theorem length_int16Bytes (v : Int) : (int16Bytes v).length = 2 := rfl

@[simp] theorem length_float32Bytes (bits : Nat) : (float32Bytes bits).length = 4 := rfl

theorem byte_toNat (n : Nat) : (UInt8.ofNat n).toNat = n % 256 := rfl

theorem float32BitsOf_float32Bytes (bits : Nat) : float32BitsOf (float32Bytes bits) = bits % 2 ^ 32 := by
  simp only [float32BitsOf, float32Bytes, List.getD_cons_zero, List.getD_cons_succ, byte_toNat]
  omega

theorem float32Value_mod (bits : Nat) : float32Value (bits % 2 ^ 32) = float32Value bits := by
  have exponent : bits % 2 ^ 32 / 2 ^ 23 % 256 = bits / 2 ^ 23 % 256 := by
    rw [show 2 ^ 32 = 2 ^ 23 * 512 from rfl, Nat.mod_mul_right_div_self, Nat.mod_mod_of_dvd _ (by decide)]
  have fraction : bits % 2 ^ 32 % 2 ^ 23 = bits % 2 ^ 23 := Nat.mod_mod_of_dvd _ (by decide)
  have sign : bits % 2 ^ 32 / 2 ^ 31 % 2 = bits / 2 ^ 31 % 2 := by
    rw [show 2 ^ 32 = 2 ^ 31 * 2 from rfl, Nat.mod_mul_right_div_self, Nat.mod_mod]
  simp only [float32Value, exponent, fraction, sign]

theorem int16Value_range (bytes : List UInt8) : -32768 ≤ int16Value bytes ∧ int16Value bytes ≤ 32767 := by
  have low := (bytes.getD 0 0).toNat_lt
  have high := (bytes.getD 1 0).toNat_lt
  simp only [int16Value]
  split_ifs <;> omega

theorem int16Bytes_int16Value {bytes : List UInt8} (two : bytes.length = 2) :
    int16Bytes (int16Value bytes) = bytes := by
  match bytes, two with
  | [a, b], _ =>
    have low := a.toNat_lt
    have high := b.toNat_lt
    have stored : (int16Value [a, b] % 65536).toNat = a.toNat + 256 * b.toNat := by
      simp only [int16Value, List.getD_cons_zero, List.getD_cons_succ]
      split_ifs <;> omega
    simp only [int16Bytes, stored, List.cons.injEq, and_true]
    constructor <;> apply UInt8.ext <;> simp only [byte_toNat] <;> omega

theorem highBit_bounds : ∀ fuel a, 0 < a → a < 2 ^ fuel →
    2 ^ highBit fuel a ≤ a ∧ a < 2 ^ (highBit fuel a + 1)
  | 0, a, positive, below => by simp only [Nat.pow_zero] at below; omega
  | fuel + 1, a, positive, below => by
    unfold highBit
    split_ifs with small
    · simp only [Nat.pow_zero, Nat.zero_add, Nat.pow_one]; omega
    · have half := highBit_bounds fuel (a / 2) (by omega) (by rw [Nat.pow_succ] at below; omega)
      simp only [Nat.pow_succ] at half ⊢
      omega

private theorem decode_fields {k f sign : Nat} (top : k ≤ 15) (fraction : f < 2 ^ 23)
    (signBit : sign = 0 ∨ sign = 2 ^ 31) :
    (sign + (112 + k) * 2 ^ 23 + f) % 2 ^ 23 = f ∧
      (sign + (112 + k) * 2 ^ 23 + f) / 2 ^ 23 % 256 = 112 + k ∧
      ((sign + (112 + k) * 2 ^ 23 + f) / 2 ^ 31 % 2 = 1 ↔ sign = 2 ^ 31) := by
  omega

theorem float32Value_widenBits {v : Int} (range : -32768 ≤ v ∧ v ≤ 32767) :
    float32Value (widenBits v) = some (v * ((2 ^ 134 : Nat) : Int)) := by
  by_cases zero : v = 0
  · subst zero; rfl
  have positive : 0 < v.natAbs := Int.natAbs_pos.mpr zero
  obtain ⟨low, high⟩ := highBit_bounds 16 v.natAbs positive (by omega)
  simp only [widenBits, if_neg zero, float32Value]
  generalize highBit 16 v.natAbs = k at low high ⊢
  have top : k ≤ 15 := by
    by_contra large
    have := Nat.pow_le_pow_right (show 0 < 2 by decide) (show 16 ≤ k by omega)
    omega
  have split23 : 2 ^ k * 2 ^ (23 - k) = 2 ^ 23 := by rw [← Nat.pow_add]; congr 1; omega
  have split134 : 2 ^ (23 - k) * 2 ^ (112 + k - 1) = 2 ^ 134 := by
    rw [← Nat.pow_add]; congr 1; omega
  have fraction : (v.natAbs - 2 ^ k) * 2 ^ (23 - k) < 2 ^ 23 := by
    rw [← split23]
    exact Nat.mul_lt_mul_of_pos_right (by rw [Nat.pow_succ] at high; omega) (Nat.two_pow_pos _)
  have magnitude : (2 ^ 23 + (v.natAbs - 2 ^ k) * 2 ^ (23 - k)) * 2 ^ (112 + k - 1) =
      v.natAbs * 2 ^ 134 := by
    rw [← split23, ← Nat.add_mul, Nat.add_sub_cancel' low, Nat.mul_assoc, split134]
  generalize (v.natAbs - 2 ^ k) * 2 ^ (23 - k) = f at fraction magnitude
  have exponent : ¬ 112 + k = 255 ∧ ¬ 112 + k = 0 := by omega
  by_cases negative : v < 0
  · obtain ⟨stored, biased, sign⟩ := decode_fields top fraction (.inr rfl)
    rw [if_pos negative, biased, stored, if_neg exponent.1, if_pos (sign.mpr rfl), if_neg exponent.2,
      magnitude]
    congr 1
    omega
  · obtain ⟨stored, biased, sign⟩ := decode_fields top fraction (.inl rfl)
    rw [if_neg negative, biased, stored, if_neg exponent.1,
      if_neg (fun set => (Nat.two_pow_pos 31).ne (sign.mp set)), if_neg exponent.2, magnitude]
    congr 1
    omega

theorem narrowSample_widenBits {v : Int} (range : -32768 ≤ v ∧ v ≤ 32767) :
    narrowSample (widenBits v) = some v := by
  have back : truncScaled (v * ((2 ^ 134 : Nat) : Int)) = v := by
    unfold truncScaled; split_ifs <;> omega
  simp only [narrowSample, float32Value_widenBits range, back, Option.pure_def, Option.bind_eq_bind,
    Option.some_bind]
  rw [if_pos range]

theorem narrow_widened_bytes {sample : List UInt8} (two : sample.length = 2) :
    (narrowSample (float32BitsOf (float32Bytes (widenBits (int16Value sample))))).map int16Bytes =
      some sample := by
  have low32 : narrowSample (float32BitsOf (float32Bytes (widenBits (int16Value sample)))) =
      narrowSample (widenBits (int16Value sample)) := by
    simp only [narrowSample, float32BitsOf_float32Bytes, float32Value_mod]
  rw [low32, narrowSample_widenBits (int16Value_range sample), Option.map_some', int16Bytes_int16Value two]

/-- A float `x` with `-1 ≤ x < 1` narrows: `(int16_t)(x * 32768.0f)` is defined and is `x·32768`
truncated toward zero, inside the `int16_t` range. -/
theorem narrowSample_of_range (bits : Nat) (x : Int) (value : float32Value bits = some x)
    (range : -((2 ^ 149 : Nat) : Int) ≤ x ∧ x < ((2 ^ 149 : Nat) : Int)) :
    narrowSample bits = some (truncScaled x) ∧ -32768 ≤ truncScaled x ∧ truncScaled x ≤ 32767 := by
  have bounds : -32768 ≤ truncScaled x ∧ truncScaled x ≤ 32767 := by
    unfold truncScaled; split_ifs <;> omega
  refine ⟨?_, bounds⟩
  simp only [narrowSample, value, Option.pure_def, Option.bind_eq_bind, Option.some_bind]
  rw [if_pos bounds]

/-- `-1.0f` (bits `0xBF800000`) narrows to `-32768`. -/
theorem narrowSample_minus_one :
    (float32Value 0xBF800000 = some (-((2 ^ 149 : Nat) : Int)) ∧
      -((2 ^ 149 : Nat) : Int) ≤ -((2 ^ 149 : Nat) : Int) ∧ -((2 ^ 149 : Nat) : Int) < ((2 ^ 149 : Nat) : Int)) ∧
      narrowSample 0xBF800000 = some (truncScaled (-((2 ^ 149 : Nat) : Int))) ∧
      -32768 ≤ truncScaled (-((2 ^ 149 : Nat) : Int)) ∧ truncScaled (-((2 ^ 149 : Nat) : Int)) ≤ 32767 :=
  ⟨⟨by decide, by decide, by decide⟩, narrowSample_of_range _ _ (by decide) (by decide)⟩

/-- `1.0f` (bits `0x3F800000`) lies in the nominal range `[-1, 1]`, but `1.0f * 32768.0f` is
32768, one past `INT16_MAX`, so the cast to `int16_t` is undefined. -/
theorem narrowSample_one_overflows :
    float32Value 0x3F800000 = some ((2 ^ 149 : Nat) : Int) ∧
      truncScaled ((2 ^ 149 : Nat) : Int) = 32768 ∧ narrowSample 0x3F800000 = none := by
  decide

end Coro.Audio
