import Coro.Dsp.BiQuad

/-!
The frequency response of the coefficients `computeBiQuad` designs, in exact real and complex
arithmetic. `computeResponse` evaluates the two polynomials at `z = e^{jw}` instead of `z⁻¹`, so it
reports the response of the conjugate filter.
-/

namespace GstDsp

open Complex ComplexConjugate

/-- The transfer function `H(z) = (b0 + b1 z⁻¹ + b2 z⁻²) / (1 + a1 z⁻¹ + a2 z⁻²)` of real
coefficients. -/
noncomputable def BiquadCoeffs.transfer (c : BiquadCoeffs ℝ) (z : ℂ) : ℂ :=
  (c.b0 + c.b1 * z⁻¹ + c.b2 * z⁻¹ ^ 2) / (1 + c.a1 * z⁻¹ + c.a2 * z⁻¹ ^ 2)

theorem transfer_one (c : BiquadCoeffs ℝ) : c.transfer 1 = c.dcGain := by
  simp only [BiquadCoeffs.transfer, BiquadCoeffs.dcGain, inv_one, one_pow, mul_one]
  push_cast; rfl

theorem transfer_neg_one (c : BiquadCoeffs ℝ) : c.transfer (-1) = c.nyquistGain := by
  simp only [BiquadCoeffs.transfer, BiquadCoeffs.nyquistGain, inv_neg, inv_one, even_two, Even.neg_pow, one_pow, mul_one, mul_neg]
  push_cast; ring_nf

theorem transfer_over (b0 b1 b2 a1 a2 : ℝ) {a0 : ℝ} (nonzero : a0 ≠ 0) (z : ℂ) :
    (BiquadCoeffs.over ⟨b0, b1, b2, a1, a2⟩ a0).transfer z =
      (b0 + b1 * z⁻¹ + b2 * z⁻¹ ^ 2) / (a0 + a1 * z⁻¹ + a2 * z⁻¹ ^ 2) := by
  have cast : (a0 : ℂ) ≠ 0 := ofReal_ne_zero.mpr nonzero
  have numerator : (b0 / a0 : ℂ) + b1 / a0 * z⁻¹ + b2 / a0 * z⁻¹ ^ 2 = (b0 + b1 * z⁻¹ + b2 * z⁻¹ ^ 2) / a0 := by
    ring
  have denominator : 1 + (a1 / a0 : ℂ) * z⁻¹ + a2 / a0 * z⁻¹ ^ 2 = (a0 + a1 * z⁻¹ + a2 * z⁻¹ ^ 2) / a0 := by
    rw [add_div, add_div, div_self cast]; ring
  simp only [BiquadCoeffs.transfer, BiquadCoeffs.over, ofReal_div]
  rw [numerator, denominator, div_div_div_cancel_right₀ cast]

theorem two_cos_mul_inv_exp (w : ℝ) :
    2 * (Real.cos w : ℂ) * (exp (w * I))⁻¹ = 1 + (exp (w * I))⁻¹ ^ 2 := by
  have two : 2 * (Real.cos w : ℂ) = exp (w * I) + (exp (w * I))⁻¹ := by
    rw [ofReal_cos, two_cos, neg_mul, exp_neg]
  rw [two, add_mul, mul_inv_cancel₀ (exp_ne_zero _), sq]

theorem one_sub_inv_exp_sq_ne_zero {w : ℝ} (off : Real.sin w ≠ 0) : 1 - (exp (w * I))⁻¹ ^ 2 ≠ 0 := by
  rw [sub_ne_zero, ne_comm, sq, Ne, mul_self_eq_one_iff, inv_eq_one, inv_eq_iff_eq_inv, inv_neg, inv_one]
  rintro (edge | edge) <;> exact off (by rw [← exp_ofReal_mul_I_im, edge]; simp)

theorem peak_centre {A alpha w0 : ℝ} (gain : 0 < A) (positive : 0 < alpha) (off : Real.sin w0 ≠ 0) :
    (peak A (Real.cos w0) alpha).transfer (exp (w0 * I)) = ((A ^ 2 : ℝ) : ℂ) := by
  have key := two_cos_mul_inv_exp w0
  have a0 : 1 + alpha / A ≠ 0 := by positivity
  rw [peak_eq_over, transfer_over _ _ _ _ _ a0]
  set u := (exp (w0 * I))⁻¹
  have numerator : ((1 + alpha * A : ℝ) : ℂ) + (-2 * Real.cos w0 : ℝ) * u + (1 - alpha * A : ℝ) * u ^ 2 =
      (alpha * A : ℝ) * (1 - u ^ 2) := by
    push_cast at key ⊢; linear_combination (-1) * key
  have denominator : ((1 + alpha / A : ℝ) : ℂ) + (-2 * Real.cos w0 : ℝ) * u + (1 - alpha / A : ℝ) * u ^ 2 =
      (alpha / A : ℝ) * (1 - u ^ 2) := by
    push_cast at key ⊢; linear_combination (-1) * key
  rw [numerator, denominator, mul_div_mul_right _ _ (one_sub_inv_exp_sq_ne_zero off), ← ofReal_div,
    div_div_eq_mul_div, mul_assoc, mul_div_cancel_left₀ _ positive.ne', sq]

theorem inside_band {r : Int} {f : ℝ} (rate : 0 < r) (low : 0 < f) (high : f < r / 2) :
    0 < Real.sin (2 * Real.pi * f / r) ∧ |Real.cos (2 * Real.pi * f / r)| < 1 := by
  have positive : (0 : ℝ) < r := Int.cast_pos.mpr rate
  have sine : 0 < Real.sin (2 * Real.pi * f / r) := by
    refine Real.sin_pos_of_pos_of_lt_pi (by positivity) ?_
    rw [div_lt_iff₀ positive, mul_comm 2 Real.pi, mul_assoc]
    exact mul_lt_mul_of_pos_left (by linarith) Real.pi_pos
  refine ⟨sine, (sq_lt_one_iff_abs_lt_one _).mp ?_⟩
  rw [Real.cos_sq']
  linarith [pow_pos sine 2]

/-- The gains that define each filter type, with `A = 10^(g/40)` and the centre `w0` in radians
per sample. -/
def DefiningGains (type : FilterType) (g w0 : ℝ) (c : BiquadCoeffs ℝ) : Prop :=
  let A := (10 : ℝ) ^ (g / 40)
  match type with
  | .LowPass => c.transfer 1 = 1 ∧ c.transfer (-1) = 0
  | .HighPass => c.transfer (-1) = 1 ∧ c.transfer 1 = 0
  | .Peak => c.transfer 1 = 1 ∧ c.transfer (-1) = 1 ∧
      Complex.abs (c.transfer (exp (w0 * I))) = A ^ 2 ∧ A ^ 2 = 10 ^ (g / 20)
  | .LowShelf => c.transfer 1 = (A ^ 2 : ℝ) ∧ c.transfer (-1) = 1
  | .HighShelf => c.transfer (-1) = (A ^ 2 : ℝ) ∧ c.transfer 1 = 1
  | .Invalid => False

theorem gain_sq (g : ℝ) : ((10 : ℝ) ^ (g / 40)) ^ 2 = 10 ^ (g / 20) := by
  rw [← Real.rpow_natCast, ← Real.rpow_mul (by norm_num)]
  norm_num
  ring_nf

/-- For every rate `r > 0` and valid filter with `0 < f < r/2` and `q > 0`, `computeBiQuad` succeeds
with the coefficients of a stable filter that has the gains of its type. -/
theorem computeBiQuad_designs_stable_filters (r : Int) (f : Filter ℝ) (valid : f.type ≠ .Invalid)
    (rate : 0 < r) (low : 0 < f.f) (high : f.f < r / 2) (quality : 0 < f.q) :
    ∃ c, computeBiQuad Libm.real r f = some c ∧ c.Stable ∧ DefiningGains f.type f.g (2 * Real.pi * f.f / r) c := by
  obtain ⟨sine, inside⟩ := inside_band rate low high
  have alpha : 0 < Real.sin (2 * Real.pi * f.f / r) * 0.5 / f.q := by positivity
  have gain : 0 < (10 : ℝ) ^ (f.g / 40) := Real.rpow_pos_of_pos (by norm_num) _
  have root : 0 < Real.sqrt ((10 : ℝ) ^ (f.g / 40)) := Real.sqrt_pos.mpr gain
  rcases f with ⟨type, freq, g, q⟩
  cases type
  case Invalid => exact absurd rfl valid
  all_goals
    refine ⟨_, rfl, ?_⟩
    simp only [Libm.real_pi, Libm.real_pow, Libm.real_sin, Libm.real_cos, Libm.real_sqrt, DefiningGains,
      transfer_one, transfer_neg_one]
  case Peak =>
    have ⟨dc, nyquist⟩ := peak_gains gain alpha inside
    refine ⟨peak_stable gain alpha inside, by rw [dc, ofReal_one], by rw [nyquist, ofReal_one], ?_, gain_sq g⟩
    rw [peak_centre gain alpha sine.ne', Complex.abs_of_nonneg (sq_nonneg _)]
  case LowPass =>
    have ⟨dc, nyquist⟩ := lowPass_gains alpha inside
    exact ⟨lowPass_stable alpha inside, by rw [dc, ofReal_one], by rw [nyquist, ofReal_zero]⟩
  case HighPass =>
    have ⟨nyquist, dc⟩ := highPass_gains alpha inside
    exact ⟨highPass_stable alpha inside, by rw [nyquist, ofReal_one], by rw [dc, ofReal_zero]⟩
  case LowShelf =>
    have ⟨dc, nyquist⟩ := lowShelf_gains gain root alpha inside
    exact ⟨lowShelf_stable gain root alpha inside, by rw [dc], by rw [nyquist, ofReal_one]⟩
  case HighShelf =>
    have ⟨nyquist, dc⟩ := highShelf_gains gain root alpha inside
    exact ⟨highShelf_stable gain root alpha inside, by rw [nyquist], by rw [dc, ofReal_one]⟩

/-- A peak of +6 dB at 1 kHz with `q = 0.7` at 48 kHz meets the conditions. -/
theorem computeBiQuad_designs_stable_filters_peak :
    let f : Filter ℝ := ⟨.Peak, 1000, 6, 0.7⟩
    f.type ≠ .Invalid ∧ (0 : Int) < 48000 ∧ 0 < f.f ∧ f.f < ((48000 : Int) : ℝ) / 2 ∧ 0 < f.q ∧
      ∃ c, computeBiQuad Libm.real 48000 f = some c ∧ c.Stable ∧
        DefiningGains f.type f.g (2 * Real.pi * f.f / (48000 : Int)) c := by
  intro f
  have valid : f.type ≠ .Invalid := nofun
  have low : (0 : ℝ) < f.f := by norm_num [f]
  have high : f.f < ((48000 : Int) : ℝ) / 2 := by norm_num [f]
  have quality : (0 : ℝ) < f.q := by norm_num [f]
  exact ⟨valid, by decide, low, high, quality,
    computeBiQuad_designs_stable_filters 48000 f valid (by decide) low high quality⟩

/-! `computeResponse` and the polynomial it evaluates. -/

/-- The loop body of `computeResponse`: `b0 + (b1 + b2 z) z` over `1 + (a1 + a2 z) z` at
`z = (cos w, sin w)`. -/
noncomputable def BiquadCoeffs.response (c : BiquadCoeffs ℝ) (w : ℝ) : ℂ :=
  let z : ℂ := ⟨Real.cos w, Real.sin w⟩
  (c.b0 + (c.b1 + c.b2 * z) * z) / (1 + (c.a1 + c.a2 * z) * z)

/-- A double the loop stores: `none` where the response is zero, where the code stores `-inf`, `inf`
or NaN, or a phase the signs of zeros decide. -/
noncomputable def finiteAt (response : ℂ) (value : ℝ) : Option ℝ :=
  if response = 0 then none else some value

theorem finiteAt_of_ne_zero {response : ℂ} (nonzero : response ≠ 0) (value : ℝ) :
    finiteAt response value = some value :=
  if_neg nonzero

/-- `computeResponse(f, freqs, mags, phases)` at 48 kHz: `none` is its `false`. -/
noncomputable def computeResponse (f : Filter ℝ) (freqs : List ℝ) (phases : Bool) :
    Option (List (Option ℝ) × Option (List (Option ℝ))) :=
  (computeBiQuad Libm.real 48000 f).map fun biquad =>
    let response (freq : ℝ) : ℂ := biquad.response (2 * Real.pi * freq / 48000)
    (freqs.map fun freq => finiteAt (response freq) (20 * Real.logb 10 (Complex.abs (response freq))),
      if phases then some (freqs.map fun freq => finiteAt (response freq) (180 / Real.pi * arg (response freq)))
      else none)

theorem response_eq_conj_transfer (c : BiquadCoeffs ℝ) (w : ℝ) :
    c.response w = conj (c.transfer (exp (w * I))) := by
  have circle : (⟨Real.cos w, Real.sin w⟩ : ℂ) = exp (w * I) :=
    Complex.ext (exp_ofReal_mul_I_re w).symm (exp_ofReal_mul_I_im w).symm
  have back : conj (exp (w * I))⁻¹ = exp (w * I) := by
    rw [map_inv₀, ← exp_conj, map_mul, conj_ofReal, conj_I, mul_neg, exp_neg, inv_inv]
  simp only [BiquadCoeffs.response, BiquadCoeffs.transfer, map_div₀, map_add, map_mul, map_pow, conj_ofReal,
    map_one, back, circle]
  congr 1 <;> ring

/-- A low-pass at a quarter of the rate with `q = 0.5` has phase `-90°` at its cutoff, and
`computeResponse` reports `+90°`. -/
theorem computeResponse_lowPass_quarter_rate :
    let f : Filter ℝ := ⟨.LowPass, 12000, 0, 0.5⟩
    ∃ c, computeBiQuad Libm.real 48000 f = some c ∧
      180 / Real.pi * arg (c.transfer (exp ((2 * Real.pi * 12000 / 48000 : ℝ) * I))) = -90 ∧
      computeResponse f [12000] true = some ([some (20 * Real.logb 10 (1 / 2))], some [some 90]) := by
  intro f
  have quarter : (2 * Real.pi * 12000 / 48000 : ℝ) = Real.pi / 2 := by ring
  have coeffs : computeBiQuad Libm.real 48000 f = some ⟨1 / 4, 1 / 2, 1 / 4, 0, 0⟩ := by
    simp only [computeBiQuad, f, Libm.real_pi, Libm.real_sin, Libm.real_cos, Int.cast_ofNat, quarter,
      Real.cos_pi_div_two, Real.sin_pi_div_two, lowPass]
    norm_num
  have atI : exp ((Real.pi / 2 : ℝ) * I) = I := by
    rw [exp_mul_I, ← ofReal_cos, ← ofReal_sin, Real.cos_pi_div_two, Real.sin_pi_div_two]; simp
  have cutoff : (BiquadCoeffs.mk (1 / 4 : ℝ) (1 / 2) (1 / 4) 0 0).transfer I = (1 / 2 : ℝ) * -I := by
    simp only [BiquadCoeffs.transfer, inv_I]
    push_cast
    ring_nf
    simp [I_sq]
  refine ⟨_, coeffs, ?_, ?_⟩
  · rw [quarter, atI, cutoff, arg_real_mul _ (by norm_num), arg_neg_I]
    field_simp
    ring
  · have nonzero : ((1 / 2 : ℝ) : ℂ) * I ≠ 0 := mul_ne_zero (by norm_num) I_ne_zero
    simp only [computeResponse, coeffs, Option.map_some', List.map_cons, List.map_nil, if_true,
      response_eq_conj_transfer, quarter, atI, cutoff, map_mul, conj_ofReal, map_neg, conj_I, neg_neg,
      finiteAt_of_ne_zero nonzero, Complex.abs_of_nonneg (by norm_num : (0 : ℝ) ≤ 1 / 2)]
    rw [abs_I, mul_one, arg_real_mul _ (by norm_num), arg_I]
    field_simp
    ring

end GstDsp
