import Mathlib.Algebra.BigOperators.Group.List.Lemmas
import Mathlib.Algebra.BigOperators.Ring.List
import Mathlib.Algebra.Order.BigOperators.Group.List
import Mathlib.Algebra.Order.Field.Basic
import Mathlib.Tactic.FieldSimp
import Mathlib.Tactic.Linarith
import Mathlib.Tactic.LinearCombination
import Mathlib.Tactic.Positivity
import Mathlib.Tactic.Ring

set_option autoImplicit false

/-! # Least-squares lines

Lines through a list of points, over an ordered field. The error of a line is a sum of squares in
the deviations from the means and two squares more, of which one vanishes at the slope `sxy / sxx`
and the other at the line through the means (`sse_eq`). So there is exactly one best line unless
all points have one abscissa (`isFit_iff`). -/

namespace LeastSquares

variable {K : Type*} [Field K]

/-- The arithmetic mean. -/
def mean (xs : List K) : K := xs.sum / xs.length

/-- The sum of the squared errors of the line `a * x + b`. -/
def sse (pts : List (K × K)) (a b : K) : K := (pts.map fun p => (p.2 - (a * p.1 + b)) ^ 2).sum

/-- The means of the abscissas and of the ordinates. -/
def meanX (pts : List (K × K)) : K := mean (pts.map Prod.fst)

def meanY (pts : List (K × K)) : K := mean (pts.map Prod.snd)

/-- The centred sums. -/
def sxx (pts : List (K × K)) : K := (pts.map fun p => (p.1 - meanX pts) ^ 2).sum

def sxy (pts : List (K × K)) : K := (pts.map fun p => (p.1 - meanX pts) * (p.2 - meanY pts)).sum

def syy (pts : List (K × K)) : K := (pts.map fun p => (p.2 - meanY pts) ^ 2).sum

/-! ## Means -/

section Means

variable [CharZero K]

/-- The deviations from the mean add up to nothing. -/
theorem sum_sub_mean (xs : List K) : (xs.map fun x => x - mean xs).sum = 0 := by
  rcases eq_or_ne xs [] with rfl | hne
  · simp
  have hlen : (xs.length : K) ≠ 0 := by exact_mod_cast (List.length_pos_iff.2 hne).ne'
  have hsum : (xs.map fun x => x - mean xs).sum = xs.sum - xs.length * mean xs := by
    simp only [sub_eq_add_neg, List.sum_map_add, List.map_id', List.map_const',
      List.sum_replicate, nsmul_eq_mul, mul_neg]
  rw [hsum, mean, mul_div_cancel₀ _ hlen, sub_self]

/-- Moving everything moves the mean. -/
theorem mean_map_add (xs : List K) (c : K) (hne : xs ≠ []) :
    mean (xs.map (· + c)) = mean xs + c := by
  have hlen : (xs.length : K) ≠ 0 := by exact_mod_cast (List.length_pos_iff.2 hne).ne'
  have hsum : (xs.map (· + c)).sum = xs.sum + xs.length * c := by
    simp [List.sum_map_add]
  rw [mean, hsum, List.length_map, mean]
  field_simp

theorem mean_map_affine (xs : List K) (a b : K) (hne : xs ≠ []) :
    mean (xs.map fun x => a * x + b) = a * mean xs + b := by
  have hlen : (xs.length : K) ≠ 0 := by exact_mod_cast (List.length_pos_iff.2 hne).ne'
  have hsum : (xs.map fun x => a * x + b).sum = a * xs.sum + xs.length * b := by
    rw [List.sum_map_add, List.sum_map_mul_left]
    simp
  rw [mean, hsum, List.length_map, mean]
  field_simp

/-- Moving the points moves nothing but the means. -/
theorem sxx_map_add (pts : List (K × K)) (c d : K) (hne : pts ≠ []) :
    sxx (pts.map fun p => (p.1 + c, p.2 + d)) = sxx pts := by
  have hmean : meanX (pts.map fun p => (p.1 + c, p.2 + d)) = meanX pts + c := by
    rw [meanX, meanX, ← mean_map_add _ c (by simpa using hne), List.map_map, List.map_map]
    rfl
  simp only [sxx, hmean, List.map_map, Function.comp_def, add_sub_add_right_eq_sub]

theorem sxy_map_add (pts : List (K × K)) (c d : K) (hne : pts ≠ []) :
    sxy (pts.map fun p => (p.1 + c, p.2 + d)) = sxy pts := by
  have hmeanX : meanX (pts.map fun p => (p.1 + c, p.2 + d)) = meanX pts + c := by
    rw [meanX, meanX, ← mean_map_add _ c (by simpa using hne), List.map_map, List.map_map]
    rfl
  have hmeanY : meanY (pts.map fun p => (p.1 + c, p.2 + d)) = meanY pts + d := by
    rw [meanY, meanY, ← mean_map_add _ d (by simpa using hne), List.map_map, List.map_map]
    rfl
  simp only [sxy, hmeanX, hmeanY, List.map_map, Function.comp_def, add_sub_add_right_eq_sub]

/-- On a line the centred sums have its slope as their quotient. -/
theorem sxy_of_line {pts : List (K × K)} {a b : K} (hne : pts ≠ [])
    (h : ∀ p ∈ pts, p.2 = a * p.1 + b) : sxy pts = a * sxx pts := by
  have hmean : meanY pts = a * meanX pts + b := by
    have hsnd : pts.map Prod.snd = (pts.map Prod.fst).map fun x => a * x + b := by
      rw [List.map_map]
      exact List.map_congr_left h
    rw [meanY, hsnd, mean_map_affine _ a b (by simpa using hne), meanX]
  rw [sxy, sxx, ← List.sum_map_mul_left]
  refine congrArg List.sum (List.map_congr_left fun p hp => ?_)
  rw [h p hp, hmean]
  ring

/-- **The error of a line**, in the centred sums. -/
theorem sse_eq (pts : List (K × K)) (a b : K) :
    sse pts a b = syy pts - 2 * a * sxy pts + a ^ 2 * sxx pts
      + pts.length * (meanY pts - (a * meanX pts + b)) ^ 2 := by
  have hx : (pts.map fun p => p.1 - meanX pts).sum = 0 := by
    simpa [meanX, List.map_map, Function.comp_def] using sum_sub_mean (pts.map Prod.fst)
  have hy : (pts.map fun p => p.2 - meanY pts).sum = 0 := by
    simpa [meanY, List.map_map, Function.comp_def] using sum_sub_mean (pts.map Prod.snd)
  -- the error at a point, in the deviations from the means and the error at the means
  have hpoint : ∀ p : K × K, (p.2 - (a * p.1 + b)) ^ 2
      = (p.2 - meanY pts) ^ 2 + -(2 * a) * ((p.1 - meanX pts) * (p.2 - meanY pts))
        + a ^ 2 * (p.1 - meanX pts) ^ 2
        + 2 * (meanY pts - (a * meanX pts + b)) * (p.2 - meanY pts)
        + -(2 * a * (meanY pts - (a * meanX pts + b))) * (p.1 - meanX pts)
        + (meanY pts - (a * meanX pts + b)) ^ 2 := by
    intro p
    ring
  simp only [sse, hpoint, List.sum_map_add, List.sum_map_mul_left, hx, hy, List.map_const',
    List.sum_replicate, nsmul_eq_mul]
  simp only [syy, sxy, sxx]
  ring

end Means

/-! ## The best line -/

section Fit

variable [LinearOrder K] [IsStrictOrderedRing K]

/-- No line has a smaller error. -/
def IsFit (pts : List (K × K)) (a b : K) : Prop := ∀ a' b', sse pts a b ≤ sse pts a' b'

theorem sxx_nonneg (pts : List (K × K)) : 0 ≤ sxx pts := by
  refine List.sum_nonneg ?_
  simp only [List.mem_map]
  rintro _ ⟨p, -, rfl⟩
  positivity

/-- The centred sum of squares vanishes exactly where all points have one abscissa. -/
theorem sxx_eq_zero_iff {pts : List (K × K)} (hne : pts ≠ []) :
    sxx pts = 0 ↔ ∃ c, ∀ p ∈ pts, p.1 = c := by
  constructor
  · intro h
    refine ⟨meanX pts, fun p hp => ?_⟩
    have hnonneg : ∀ x ∈ pts.map (fun p => (p.1 - meanX pts) ^ 2), 0 ≤ x := by
      simp only [List.mem_map]
      rintro _ ⟨q, -, rfl⟩
      positivity
    have hsq : (p.1 - meanX pts) ^ 2 = 0 :=
      List.all_zero_of_le_zero_le_of_sum_eq_zero hnonneg h (List.mem_map_of_mem hp)
    exact sub_eq_zero.1 ((pow_eq_zero_iff two_ne_zero).1 hsq)
  · rintro ⟨c, hc⟩
    have hmean : meanX pts = c := by
      have hmap : pts.map Prod.fst = List.replicate pts.length c :=
        List.eq_replicate_iff.2 ⟨by simp, by simpa using hc⟩
      have hlen : (pts.length : K) ≠ 0 := by exact_mod_cast (List.length_pos_iff.2 hne).ne'
      rw [meanX, hmap, mean, List.sum_replicate, List.length_replicate, nsmul_eq_mul,
        mul_div_cancel_left₀ _ hlen]
    refine List.sum_eq_zero ?_
    simp only [List.mem_map]
    rintro _ ⟨p, hp, rfl⟩
    rw [hmean, hc p hp, sub_self, zero_pow two_ne_zero]

/-- **The best line**: its slope is the quotient of the centred sums, and it goes through the
    means. -/
theorem isFit_iff {pts : List (K × K)} (hpos : 0 < sxx pts) {a b : K} :
    IsFit pts a b ↔ a = sxy pts / sxx pts ∧ b = meanY pts - a * meanX pts := by
  have hne : pts ≠ [] := by
    rintro rfl
    simp [sxx] at hpos
  have hlen : (0 : K) < pts.length := by exact_mod_cast List.length_pos_iff.2 hne
  -- two squares on top of what no line can avoid
  have hsplit : ∀ a b : K, sse pts a b = syy pts - sxy pts ^ 2 / sxx pts
      + sxx pts * (a - sxy pts / sxx pts) ^ 2
      + pts.length * (meanY pts - (a * meanX pts + b)) ^ 2 := by
    intro a b
    rw [sse_eq]
    field_simp
    ring
  constructor
  · intro h
    have hbest := h (sxy pts / sxx pts) (meanY pts - sxy pts / sxx pts * meanX pts)
    rw [hsplit, hsplit] at hbest
    have hzero : sxx pts * (a - sxy pts / sxx pts) ^ 2
        + pts.length * (meanY pts - (a * meanX pts + b)) ^ 2 ≤ 0 := by
      have hend : meanY pts - (sxy pts / sxx pts * meanX pts
          + (meanY pts - sxy pts / sxx pts * meanX pts)) = 0 := by ring
      rw [hend] at hbest
      linarith
    have hslope : sxx pts * (a - sxy pts / sxx pts) ^ 2 = 0 := by
      have h1 : 0 ≤ sxx pts * (a - sxy pts / sxx pts) ^ 2 := by positivity
      have h2 : 0 ≤ pts.length * (meanY pts - (a * meanX pts + b)) ^ 2 := by positivity
      linarith
    have hmeans : pts.length * (meanY pts - (a * meanX pts + b)) ^ 2 = 0 := by
      have h1 : 0 ≤ pts.length * (meanY pts - (a * meanX pts + b)) ^ 2 := by positivity
      linarith
    have hslope' := (pow_eq_zero_iff two_ne_zero).1 ((mul_eq_zero.1 hslope).resolve_left hpos.ne')
    have hmeans' := (pow_eq_zero_iff two_ne_zero).1 ((mul_eq_zero.1 hmeans).resolve_left hlen.ne')
    exact ⟨sub_eq_zero.1 hslope', by linear_combination -hmeans'⟩
  · rintro ⟨rfl, rfl⟩ a' b'
    rw [hsplit, hsplit]
    have hend : meanY pts - (sxy pts / sxx pts * meanX pts
        + (meanY pts - sxy pts / sxx pts * meanX pts)) = 0 := by ring
    have h1 : 0 ≤ sxx pts * (a' - sxy pts / sxx pts) ^ 2 := by positivity
    have h2 : 0 ≤ pts.length * (meanY pts - (a' * meanX pts + b')) ^ 2 := by positivity
    rw [hend, sub_self]
    linarith

end Fit

end LeastSquares
