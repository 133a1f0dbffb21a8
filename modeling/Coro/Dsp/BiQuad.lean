import Mathlib

/-!
`GstDsp::computeBiQuad`: the audio EQ cookbook coefficients of a peak, low-pass, high-pass,
low-shelf or high-shelf filter. The formulas are field arithmetic over any field `K`, with the C
math library as a parameter; the theorems read them in exact real arithmetic.
-/

namespace GstDsp

/-- The filter types `computeBiQuad` switches on. -/
inductive FilterType
  | Invalid
  | Peak
  | LowPass
  | HighPass
  | LowShelf
  | HighShelf
deriving DecidableEq, Repr

/-- A `Filter`: its type, frequency `f` in Hz, gain `g` in dB and quality `q`. -/
structure Filter (K : Type) where
  type : FilterType
  f : K
  g : K
  q : K

/-- `BiquadCoeffs`, normalised so that `a0 = 1`. -/
structure BiquadCoeffs (K : Type) where
  b0 : K
  b1 : K
  b2 : K
  a1 : K
  a2 : K

/-- The functions of the C math library `computeBiQuad` calls, and `M_PI`. -/
structure Libm (K : Type) where
  pi : K
  pow : K → K → K
  sin : K → K
  cos : K → K
  sqrt : K → K

/-- The math library in exact real arithmetic. -/
noncomputable def Libm.real : Libm ℝ := ⟨Real.pi, fun x y => x ^ y, Real.sin, Real.cos, Real.sqrt⟩

@[simp] theorem Libm.real_pi : Libm.real.pi = Real.pi := rfl
@[simp] theorem Libm.real_pow (x y : ℝ) : Libm.real.pow x y = x ^ y := rfl
@[simp] theorem Libm.real_sin : Libm.real.sin = Real.sin := rfl
@[simp] theorem Libm.real_cos : Libm.real.cos = Real.cos := rfl
@[simp] theorem Libm.real_sqrt : Libm.real.sqrt = Real.sqrt := rfl

section Coefficients

variable {K : Type} [Field K]

/-- The `Peak` case of `computeBiQuad`, from `A`, `cos(w0)` and `alpha`. -/
def peak (A cosW0 alpha : K) : BiquadCoeffs K :=
  let alpha1 := alpha * A
  let alpha2 := alpha / A
  let a0 := 1 + alpha2
  let b1 := -2 * cosW0 / a0
  { b0 := (1 + alpha1) / a0, b1 := b1, b2 := (1 - alpha1) / a0, a1 := b1, a2 := (1 - alpha2) / a0 }

/-- The `LowPass` case of `computeBiQuad`. -/
def lowPass (cosW0 alpha : K) : BiquadCoeffs K :=
  let a0 := 1 + alpha
  let b1 := (1 - cosW0) / a0
  let b0 := b1 * 0.5
  { b0 := b0, b1 := b1, b2 := b0, a1 := -2 * cosW0 / a0, a2 := (1 - alpha) / a0 }

/-- The `HighPass` case of `computeBiQuad`. -/
def highPass (cosW0 alpha : K) : BiquadCoeffs K :=
  let a0 := 1 + alpha
  let b1 := -(1 + cosW0) / a0
  let b0 := b1 * -0.5
  { b0 := b0, b1 := b1, b2 := b0, a1 := -2 * cosW0 / a0, a2 := (1 - alpha) / a0 }

/-- The `LowShelf` case of `computeBiQuad`, from `A`, `sqrt(A)`, `cos(w0)` and `alpha`. -/
def lowShelf (A sqrtA cosW0 alpha : K) : BiquadCoeffs K :=
  let sqrtAalpha2 := 2 * sqrtA * alpha
  let a0 := (A + 1) + (A - 1) * cosW0 + sqrtAalpha2
  { b0 := A * ((A + 1) - (A - 1) * cosW0 + sqrtAalpha2) / a0
    b1 := 2 * A * ((A - 1) - (A + 1) * cosW0) / a0
    b2 := A * ((A + 1) - (A - 1) * cosW0 - sqrtAalpha2) / a0
    a1 := -2 * ((A - 1) + (A + 1) * cosW0) / a0
    a2 := ((A + 1) + (A - 1) * cosW0 - sqrtAalpha2) / a0 }

/-- The `HighShelf` case of `computeBiQuad`. -/
def highShelf (A sqrtA cosW0 alpha : K) : BiquadCoeffs K :=
  let sqrtAalpha2 := 2 * sqrtA * alpha
  let a0 := (A + 1) - (A - 1) * cosW0 + sqrtAalpha2
  { b0 := A * ((A + 1) + (A - 1) * cosW0 + sqrtAalpha2) / a0
    b1 := -2 * A * ((A - 1) + (A + 1) * cosW0) / a0
    b2 := A * ((A + 1) + (A - 1) * cosW0 - sqrtAalpha2) / a0
    a1 := 2 * ((A - 1) - (A + 1) * cosW0) / a0
    a2 := ((A + 1) - (A - 1) * cosW0 - sqrtAalpha2) / a0 }

/-- `computeBiQuad(r, f, &biquad)`: `none` is its `false`, for an `Invalid` filter. -/
def computeBiQuad (libm : Libm K) (r : Int) (f : Filter K) : Option (BiquadCoeffs K) :=
  let A := libm.pow 10 (f.g / 40)
  let w0 := 2 * libm.pi * f.f / r
  let alpha := libm.sin w0 * 0.5 / f.q
  match f.type with
  | .Peak => some (peak A (libm.cos w0) alpha)
  | .LowPass => some (lowPass (libm.cos w0) alpha)
  | .HighPass => some (highPass (libm.cos w0) alpha)
  | .LowShelf => some (lowShelf A (libm.sqrt A) (libm.cos w0) alpha)
  | .HighShelf => some (highShelf A (libm.sqrt A) (libm.cos w0) alpha)
  | .Invalid => none

/-- The gain at DC, `H(1)`. -/
def BiquadCoeffs.dcGain (c : BiquadCoeffs K) : K := (c.b0 + c.b1 + c.b2) / (1 + c.a1 + c.a2)

/-- The gain at Nyquist, `H(-1)`. -/
def BiquadCoeffs.nyquistGain (c : BiquadCoeffs K) : K := (c.b0 - c.b1 + c.b2) / (1 - c.a1 + c.a2)

/-- The cookbook's unnormalised coefficients `n`, divided by its `a0`. -/
def BiquadCoeffs.over (n : BiquadCoeffs K) (a0 : K) : BiquadCoeffs K :=
  ⟨n.b0 / a0, n.b1 / a0, n.b2 / a0, n.a1 / a0, n.a2 / a0⟩

theorem dcGain_over (b0 b1 b2 a1 a2 : K) {a0 : K} (nonzero : a0 ≠ 0) :
    (BiquadCoeffs.over ⟨b0, b1, b2, a1, a2⟩ a0).dcGain = (b0 + b1 + b2) / (a0 + a1 + a2) := by
  rw [BiquadCoeffs.dcGain, BiquadCoeffs.over, ← add_div, ← add_div, ← div_self nonzero, ← add_div,
    ← add_div, div_div_div_cancel_right₀ nonzero]

theorem nyquistGain_over (b0 b1 b2 a1 a2 : K) {a0 : K} (nonzero : a0 ≠ 0) :
    (BiquadCoeffs.over ⟨b0, b1, b2, a1, a2⟩ a0).nyquistGain = (b0 - b1 + b2) / (a0 - a1 + a2) := by
  rw [BiquadCoeffs.nyquistGain, BiquadCoeffs.over, ← sub_div, ← add_div, ← div_self nonzero, ← sub_div,
    ← add_div, div_div_div_cancel_right₀ nonzero]

/-! Each case is the cookbook's coefficients over its `a0`. -/

theorem peak_eq_over (A cosW0 alpha : K) :
    peak A cosW0 alpha =
      BiquadCoeffs.over ⟨1 + alpha * A, -2 * cosW0, 1 - alpha * A, -2 * cosW0, 1 - alpha / A⟩ (1 + alpha / A) :=
  rfl

theorem lowPass_eq_over (cosW0 alpha : K) :
    lowPass cosW0 alpha =
      BiquadCoeffs.over ⟨(1 - cosW0) * 0.5, 1 - cosW0, (1 - cosW0) * 0.5, -2 * cosW0, 1 - alpha⟩ (1 + alpha) := by
  simp only [lowPass, BiquadCoeffs.over, div_mul_eq_mul_div]

theorem highPass_eq_over (cosW0 alpha : K) :
    highPass cosW0 alpha =
      BiquadCoeffs.over ⟨-(1 + cosW0) * -0.5, -(1 + cosW0), -(1 + cosW0) * -0.5, -2 * cosW0, 1 - alpha⟩
        (1 + alpha) := by
  simp only [highPass, BiquadCoeffs.over, div_mul_eq_mul_div]

theorem lowShelf_eq_over (A sqrtA cosW0 alpha : K) :
    lowShelf A sqrtA cosW0 alpha =
      BiquadCoeffs.over
        ⟨A * ((A + 1) - (A - 1) * cosW0 + 2 * sqrtA * alpha), 2 * A * ((A - 1) - (A + 1) * cosW0),
          A * ((A + 1) - (A - 1) * cosW0 - 2 * sqrtA * alpha), -2 * ((A - 1) + (A + 1) * cosW0),
          (A + 1) + (A - 1) * cosW0 - 2 * sqrtA * alpha⟩
        ((A + 1) + (A - 1) * cosW0 + 2 * sqrtA * alpha) :=
  rfl

theorem highShelf_eq_over (A sqrtA cosW0 alpha : K) :
    highShelf A sqrtA cosW0 alpha =
      BiquadCoeffs.over
        ⟨A * ((A + 1) + (A - 1) * cosW0 + 2 * sqrtA * alpha), -2 * A * ((A - 1) + (A + 1) * cosW0),
          A * ((A + 1) + (A - 1) * cosW0 - 2 * sqrtA * alpha), 2 * ((A - 1) - (A + 1) * cosW0),
          (A + 1) - (A - 1) * cosW0 - 2 * sqrtA * alpha⟩
        ((A + 1) - (A - 1) * cosW0 + 2 * sqrtA * alpha) :=
  rfl

end Coefficients

/-- Both poles of `1 + a1 z⁻¹ + a2 z⁻²` lie inside the unit circle. -/
def BiquadCoeffs.Stable {K : Type} [LinearOrderedField K] (c : BiquadCoeffs K) : Prop :=
  |c.a2| < 1 ∧ |c.a1| < 1 + c.a2

section Design

variable {K : Type} [LinearOrderedField K]

theorem stable_over {b0 b1 b2 a1 y x : K} (positive : 0 < x) (symmetric : 0 < y) (outer : |a1| < 2 * y) :
    (BiquadCoeffs.over ⟨b0, b1, b2, a1, y - x⟩ (y + x)).Stable := by
  have pos : 0 < y + x := add_pos symmetric positive
  dsimp only [BiquadCoeffs.Stable, BiquadCoeffs.over]
  rw [abs_div, abs_of_pos pos, div_lt_one pos, abs_div, abs_of_pos pos, div_lt_iff₀ pos, add_mul, one_mul,
    div_mul_cancel₀ _ pos.ne']
  exact ⟨abs_lt.mpr ⟨by linarith, by linarith⟩, by linarith⟩

theorem abs_two_cos_lt {cosW0 : K} (inside : |cosW0| < 1) : |-2 * cosW0| < 2 * 1 := by
  rw [abs_mul, abs_neg, abs_two]
  linarith

theorem lowPass_stable {cosW0 alpha : K} (positive : 0 < alpha) (inside : |cosW0| < 1) :
    (lowPass cosW0 alpha).Stable :=
  lowPass_eq_over cosW0 alpha ▸ stable_over positive one_pos (abs_two_cos_lt inside)

theorem highPass_stable {cosW0 alpha : K} (positive : 0 < alpha) (inside : |cosW0| < 1) :
    (highPass cosW0 alpha).Stable :=
  highPass_eq_over cosW0 alpha ▸ stable_over positive one_pos (abs_two_cos_lt inside)

theorem peak_stable {A cosW0 alpha : K} (gain : 0 < A) (positive : 0 < alpha) (inside : |cosW0| < 1) :
    (peak A cosW0 alpha).Stable :=
  stable_over (div_pos positive gain) one_pos (abs_two_cos_lt inside)

theorem lowShelf_stable {A sqrtA cosW0 alpha : K} (gain : 0 < A) (root : 0 < sqrtA) (positive : 0 < alpha)
    (inside : |cosW0| < 1) : (lowShelf A sqrtA cosW0 alpha).Stable := by
  have ⟨below, above⟩ := abs_lt.mp inside
  have rising : 0 < A * (1 + cosW0) := mul_pos gain (by linarith)
  exact stable_over (by positivity) (by linarith) (abs_lt.mpr ⟨by linarith, by linarith⟩)

theorem highShelf_stable {A sqrtA cosW0 alpha : K} (gain : 0 < A) (root : 0 < sqrtA) (positive : 0 < alpha)
    (inside : |cosW0| < 1) : (highShelf A sqrtA cosW0 alpha).Stable := by
  have ⟨below, above⟩ := abs_lt.mp inside
  have falling : 0 < A * (1 - cosW0) := mul_pos gain (by linarith)
  exact stable_over (by positivity) (by linarith) (abs_lt.mpr ⟨by linarith, by linarith⟩)

/-! The gains at DC and at Nyquist, case by case. -/

theorem lowPass_gains {cosW0 alpha : K} (positive : 0 < alpha) (inside : |cosW0| < 1) :
    (lowPass cosW0 alpha).dcGain = 1 ∧ (lowPass cosW0 alpha).nyquistGain = 0 := by
  have ⟨below, above⟩ := abs_lt.mp inside
  have a0 : (1 + alpha) ≠ 0 := by positivity
  rw [lowPass_eq_over, dcGain_over _ _ _ _ _ a0, nyquistGain_over _ _ _ _ _ a0, div_eq_one_iff_eq (by linarith)]
  exact ⟨by ring, by ring⟩

theorem highPass_gains {cosW0 alpha : K} (positive : 0 < alpha) (inside : |cosW0| < 1) :
    (highPass cosW0 alpha).nyquistGain = 1 ∧ (highPass cosW0 alpha).dcGain = 0 := by
  have ⟨below, above⟩ := abs_lt.mp inside
  have a0 : (1 + alpha) ≠ 0 := by positivity
  rw [highPass_eq_over, dcGain_over _ _ _ _ _ a0, nyquistGain_over _ _ _ _ _ a0, div_eq_one_iff_eq (by linarith)]
  exact ⟨by ring, by ring⟩

theorem peak_gains {A cosW0 alpha : K} (gain : 0 < A) (positive : 0 < alpha) (inside : |cosW0| < 1) :
    (peak A cosW0 alpha).dcGain = 1 ∧ (peak A cosW0 alpha).nyquistGain = 1 := by
  have ⟨below, above⟩ := abs_lt.mp inside
  have a0 : 1 + alpha / A ≠ 0 := by positivity
  rw [peak_eq_over, dcGain_over _ _ _ _ _ a0, nyquistGain_over _ _ _ _ _ a0, div_eq_one_iff_eq (by linarith),
    div_eq_one_iff_eq (by linarith)]
  exact ⟨by ring, by ring⟩

theorem lowShelf_gains {A sqrtA cosW0 alpha : K} (gain : 0 < A) (root : 0 < sqrtA) (positive : 0 < alpha)
    (inside : |cosW0| < 1) :
    (lowShelf A sqrtA cosW0 alpha).dcGain = A ^ 2 ∧ (lowShelf A sqrtA cosW0 alpha).nyquistGain = 1 := by
  have ⟨below, above⟩ := abs_lt.mp inside
  have rising : 0 < A * (1 + cosW0) := mul_pos gain (by linarith)
  have a0 : (A + 1) + (A - 1) * cosW0 + 2 * sqrtA * alpha ≠ 0 := by
    have : 0 < 2 * sqrtA * alpha := by positivity
    linarith
  rw [lowShelf_eq_over, dcGain_over _ _ _ _ _ a0, nyquistGain_over _ _ _ _ _ a0, div_eq_iff (by linarith),
    div_eq_one_iff_eq (by linarith)]
  exact ⟨by ring, by ring⟩

theorem highShelf_gains {A sqrtA cosW0 alpha : K} (gain : 0 < A) (root : 0 < sqrtA) (positive : 0 < alpha)
    (inside : |cosW0| < 1) :
    (highShelf A sqrtA cosW0 alpha).nyquistGain = A ^ 2 ∧ (highShelf A sqrtA cosW0 alpha).dcGain = 1 := by
  have ⟨below, above⟩ := abs_lt.mp inside
  have falling : 0 < A * (1 - cosW0) := mul_pos gain (by linarith)
  have a0 : (A + 1) - (A - 1) * cosW0 + 2 * sqrtA * alpha ≠ 0 := by
    have : 0 < 2 * sqrtA * alpha := by positivity
    linarith
  rw [highShelf_eq_over, dcGain_over _ _ _ _ _ a0, nyquistGain_over _ _ _ _ _ a0, div_eq_iff (by linarith),
    div_eq_one_iff_eq (by linarith)]
  exact ⟨by ring, by ring⟩

end Design

end GstDsp
