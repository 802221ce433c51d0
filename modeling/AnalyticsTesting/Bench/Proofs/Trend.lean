import AnalyticsTesting.Bench.Report
import AnalyticsTesting.Lib.LeastSquares

set_option autoImplicit false

/-! # The trend of the backlog

`linear_slope` of `bench/report.py` is the slope of the least-squares line, and `backlog_slope` of
the throughput test, which has a copy of the same sums, is sixty times that. -/

namespace AnalyticsTesting.Bench

open LeastSquares

/-- All values are the same. -/
def AllEqual (xs : List ℚ) : Prop := ∃ c, ∀ x ∈ xs, x = c

/-- What makes a function the slope of a list of abscissas and a list of ordinates. -/
structure SlopeLaws (slope : List ℚ → List ℚ → Option ℚ) : Prop where
  /-- It is the one slope of a line of least squares. -/
  fits : ∀ xs ys : List ℚ, xs.length = ys.length → 3 ≤ xs.length → ¬ AllEqual xs →
    ∃ a, slope xs ys = some a ∧ (∃ b, IsFit (xs.zip ys) a b) ∧
      ∀ a' b', IsFit (xs.zip ys) a' b' → a' = a
  /-- Constants make no difference. -/
  shift : ∀ (xs ys : List ℚ) (c d : ℚ), xs.length = ys.length →
    slope (xs.map (· + c)) (ys.map (· + d)) = slope xs ys
  /-- On a line it is the line's. -/
  line : ∀ (xs : List ℚ) (a b : ℚ), 3 ≤ xs.length → ¬ AllEqual xs →
    slope xs (xs.map fun x => a * x + b) = some a
  none_iff : ∀ xs ys : List ℚ, xs.length = ys.length →
    (slope xs ys = none ↔ xs.length < 3 ∨ AllEqual xs)

variable {xs ys : List ℚ}

/-- `linear_slope`, in the centred sums of the points. -/
theorem linearSlope_eq (hlen : xs.length = ys.length) :
    linearSlope xs ys = if xs.length < 3 ∨ sxx (xs.zip ys) = 0 then none
      else some (sxy (xs.zip ys) / sxx (xs.zip ys)) := by
  have hfst : (xs.zip ys).map Prod.fst = xs := List.map_fst_zip hlen.le
  have hsnd : (xs.zip ys).map Prod.snd = ys := List.map_snd_zip hlen.ge
  have hx : meanX (xs.zip ys) = fmean xs := by rw [meanX, hfst]; rfl
  have hy : meanY (xs.zip ys) = fmean ys := by rw [meanY, hsnd]; rfl
  have hdenom : (xs.map fun x => (x - fmean xs) ^ 2).sum = sxx (xs.zip ys) := by
    have hmap : (xs.map fun x => (x - fmean xs) ^ 2)
        = (xs.zip ys).map fun p => (p.1 - fmean xs) ^ 2 := by
      conv_lhs => rw [← hfst, List.map_map, hfst]
      rfl
    rw [sxx, hx, hmap]
  have hnum : (List.zipWith (fun x y => (x - fmean xs) * (y - fmean ys)) xs ys).sum
      = sxy (xs.zip ys) := by
    rw [sxy, hx, hy, List.map_zip_eq_zipWith]
    rfl
  simp only [linearSlope, hdenom, hnum]
  by_cases hshort : xs.length < 3
  · rw [if_pos hshort, if_pos (Or.inl hshort)]
  · rw [if_neg hshort]
    by_cases hflat : sxx (xs.zip ys) = 0
    · rw [if_pos hflat, if_pos (Or.inr hflat)]
    · rw [if_neg hflat, if_neg (by tauto)]

theorem zip_ne_nil (hlen : xs.length = ys.length) (hne : xs ≠ []) : xs.zip ys ≠ [] := by
  intro hnil
  have hfst : (xs.zip ys).map Prod.fst = xs := List.map_fst_zip hlen.le
  rw [hnil] at hfst
  exact hne hfst.symm

/-- The points have one abscissa exactly if the abscissas are all the same. -/
theorem sxx_zip_eq_zero_iff (hlen : xs.length = ys.length) (hne : xs ≠ []) :
    sxx (xs.zip ys) = 0 ↔ AllEqual xs := by
  have hfst : (xs.zip ys).map Prod.fst = xs := List.map_fst_zip hlen.le
  rw [sxx_eq_zero_iff (zip_ne_nil hlen hne)]
  refine exists_congr fun c => ?_
  conv_rhs => rw [← hfst]
  simp

/-- Three values that are not all the same have a slope. -/
theorem linearSlope_eq_some (hlen : xs.length = ys.length) (hthree : 3 ≤ xs.length)
    (hdiff : ¬ AllEqual xs) :
    0 < sxx (xs.zip ys) ∧ linearSlope xs ys = some (sxy (xs.zip ys) / sxx (xs.zip ys)) := by
  have hne : xs ≠ [] := by
    rintro rfl
    simp at hthree
  have hsxx : sxx (xs.zip ys) ≠ 0 := fun h => hdiff ((sxx_zip_eq_zero_iff hlen hne).1 h)
  refine ⟨lt_of_le_of_ne (sxx_nonneg _) hsxx.symm, ?_⟩
  rw [linearSlope_eq hlen, if_neg]
  rintro (hshort | hflat)
  · omega
  · exact hsxx hflat

theorem linearSlope_shift (xs ys : List ℚ) (c d : ℚ) (hlen : xs.length = ys.length) :
    linearSlope (xs.map (· + c)) (ys.map (· + d)) = linearSlope xs ys := by
  rcases eq_or_ne xs [] with rfl | hne
  · rfl
  have hzip : (xs.map (· + c)).zip (ys.map (· + d))
      = (xs.zip ys).map fun p => (p.1 + c, p.2 + d) := by
    rw [List.zip_map]
    rfl
  have hzipne := zip_ne_nil hlen hne
  rw [linearSlope_eq (by simpa using hlen), linearSlope_eq hlen, hzip,
    sxx_map_add _ c d hzipne, sxy_map_add _ c d hzipne, List.length_map]

theorem linearSlope_line (xs : List ℚ) (a b : ℚ) (hthree : 3 ≤ xs.length)
    (hdiff : ¬ AllEqual xs) : linearSlope xs (xs.map fun x => a * x + b) = some a := by
  have hlen : xs.length = (xs.map fun x => a * x + b).length := by simp
  obtain ⟨hpos, hslope⟩ := linearSlope_eq_some hlen hthree hdiff
  have hne : xs.zip (xs.map fun x => a * x + b) ≠ [] := by
    intro h
    rw [h] at hpos
    exact absurd hpos (by simp [sxx])
  have hline : ∀ p ∈ xs.zip (xs.map fun x => a * x + b), p.2 = a * p.1 + b := by
    rw [← List.map_prod_left_eq_zip]
    simp
  rw [hslope, sxy_of_line hne hline, mul_div_cancel_right₀ _ hpos.ne']

/-- **`linear_slope` is the slope of the least-squares line.** -/
theorem slopeLaws_linearSlope : SlopeLaws linearSlope where
  fits := by
    intro xs ys hlen hthree hdiff
    obtain ⟨hpos, hslope⟩ := linearSlope_eq_some hlen hthree hdiff
    refine ⟨_, hslope, ⟨_, (isFit_iff hpos).2 ⟨rfl, rfl⟩⟩, ?_⟩
    intro a' b' hfit
    exact ((isFit_iff hpos).1 hfit).1
  shift := linearSlope_shift
  line := linearSlope_line
  none_iff := by
    intro xs ys hlen
    rcases eq_or_ne xs [] with rfl | hne
    · exact iff_of_true rfl (Or.inl (by decide))
    · rw [linearSlope_eq hlen, ← sxx_zip_eq_zero_iff hlen hne]
      by_cases h : xs.length < 3 ∨ sxx (xs.zip ys) = 0
      · rw [if_pos h]
        exact iff_of_true rfl h
      · rw [if_neg h]
        exact iff_of_false (by simp) h

/-! ## The throughput test -/

/-- The readings of the backlog between two times. -/
def backlogReadings (run : RunFiles) (t0 t1 : ℚ) : List (ℚ × ℚ) :=
  run.pipeline.filterMap fun r =>
    match r.ts, r.backlogFiles with
    | some ts, some files => if t0 ≤ ts ∧ ts ≤ t1 then some (ts, files) else none
    | _, _ => none

/-- The window of the criterion: the second half of the readings. -/
def backlogWindow (run : RunFiles) (t0 t1 : ℚ) : List (ℚ × ℚ) :=
  (backlogReadings run t0 t1).drop ((backlogReadings run t0 t1).length / 2)

/-- `backlog_slope` is `linear_slope` on its window, in files a minute. -/
theorem backlogSlope_eq (run : RunFiles) (t0 t1 : ℚ) :
    backlogSlope run t0 t1 = if (backlogReadings run t0 t1).length < 4 then none
      else (linearSlope ((backlogWindow run t0 t1).map Prod.fst)
        ((backlogWindow run t0 t1).map Prod.snd)).map (60 * ·) := by
  -- the source counts the time from the first reading of the window
  let start := ((backlogWindow run t0 t1).head?.map Prod.fst).getD 0
  have hsums : backlogSlope run t0 t1 = if (backlogReadings run t0 t1).length < 4 then none
      else (linearSlope ((backlogWindow run t0 t1).map fun p => p.1 - start)
        ((backlogWindow run t0 t1).map Prod.snd)).map (· * 60) := by
    have hreadings : backlogSlope run t0 t1 = if (backlogReadings run t0 t1).length < 4 then none
        else if (backlogWindow run t0 t1).length < 3 then none
        else
          let xs := (backlogWindow run t0 t1).map fun p => p.1 - start
          let ys := (backlogWindow run t0 t1).map Prod.snd
          let den := (xs.map fun x => (x - fmean xs) ^ 2).sum
          if den = 0 then none
          else some ((List.zipWith (fun x y => (x - fmean xs) * (y - fmean ys)) xs ys).sum / den
            * 60) := rfl
    rw [hreadings]
    simp only [linearSlope, List.length_map]
    split_ifs <;> rfl
  have hshift : ((backlogWindow run t0 t1).map fun p => p.1 - start)
      = ((backlogWindow run t0 t1).map Prod.fst).map (· + -start) := by
    simp [sub_eq_add_neg]
  have hsame : ((backlogWindow run t0 t1).map Prod.snd)
      = ((backlogWindow run t0 t1).map Prod.snd).map (· + 0) := by simp
  rw [hsums, hshift, hsame, linearSlope_shift _ _ _ _ (by simp), ← hsame]
  simp only [mul_comm]

/-- **Both slopes are those of the least-squares line**: `linear_slope` as it is, `backlog_slope`
    on the second half of the readings and a minute. -/
theorem slopes_leastSquares :
    SlopeLaws linearSlope ∧ ∀ (run : RunFiles) (t0 t1 : ℚ),
      backlogSlope run t0 t1 = if (backlogReadings run t0 t1).length < 4 then none
        else (linearSlope ((backlogWindow run t0 t1).map Prod.fst)
          ((backlogWindow run t0 t1).map Prod.snd)).map (60 * ·) :=
  ⟨slopeLaws_linearSlope, backlogSlope_eq⟩

end AnalyticsTesting.Bench
