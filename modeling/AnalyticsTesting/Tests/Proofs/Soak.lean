import AnalyticsTesting.Lib.Means
import AnalyticsTesting.Tests.Soak
import Mathlib.Tactic.FieldSimp

set_option autoImplicit false

/-! # What the drift analysis sees

For rows that were written in the order of their times. A run that is over within an hour compares
all of its rows with themselves, so nothing drifts in it. In a longer one, a metric that never falls
is never said to have fallen, and it is named if it has grown by more than a twentieth between the
two hours. A metric in MiB counts as zero in an hour that has no figures of it: it is said to have
fallen to zero or to have grown from it; any other metric is not measured then
(`soakLine_sound`). -/

namespace AnalyticsTesting.Tests

open LeastSquares (mean)

variable {R : Type*} {ts : R → Option ℚ} {rows : List R}

/-! ## The windows -/

/-- The rows were written in the order of their times. -/
def InOrder (ts : R → Option ℚ) (rows : List R) : Prop :=
  rows.Pairwise fun r s => ∀ t ∈ ts r, ∀ u ∈ ts s, t ≤ u

theorem window_isPrefix (h : InOrder ts rows) (seconds : ℚ) :
    window ts rows true seconds <+: timed ts rows := by
  rw [window, if_pos rfl]
  split
  · exact List.nil_prefix
  · rename_i t0 _
    refine Means.filter_isPrefix ((List.Pairwise.filter _ h).imp_of_mem ?_)
    intro r s hr _ hle hs
    obtain ⟨t, ht⟩ := Option.isSome_iff_exists.1 (List.mem_filter.1 hr).2
    obtain ⟨u, hu, hbound⟩ := (Option.any_eq_true _ _).1 hs
    rw [ht, Option.any_some, decide_eq_true_eq]
    exact (hle t ht u hu).trans (of_decide_eq_true hbound)

theorem window_isSuffix (h : InOrder ts rows) (seconds : ℚ) :
    window ts rows false seconds <:+ timed ts rows := by
  rw [window, if_neg Bool.false_ne_true]
  split
  · exact List.nil_suffix
  · rename_i t1 _
    refine Means.filter_isSuffix ((List.Pairwise.filter _ h).imp_of_mem ?_)
    intro r s _ hs hle hr
    obtain ⟨u, hu⟩ := Option.isSome_iff_exists.1 (List.mem_filter.1 hs).2
    obtain ⟨t, ht, hbound⟩ := (Option.any_eq_true _ _).1 hr
    rw [hu, Option.any_some, decide_eq_true_eq]
    exact (of_decide_eq_true hbound).trans (hle t ht u hu)

/-- A run that is over within the window is its own beginning and its own end. -/
theorem window_eq_timed {seconds : ℚ}
    (hshort : ∀ r ∈ rows, ∀ s ∈ rows, ∀ t ∈ ts r, ∀ u ∈ ts s, u ≤ t + seconds) (first : Bool) :
    window ts rows first seconds = timed ts rows := by
  rw [window]
  cases hrows : timed ts rows with
  | nil => cases first <;> rfl
  | cons r0 rest =>
      have hmem : ∀ r ∈ r0 :: rest, r ∈ rows ∧ ∃ t, ts r = some t := by
        intro r hr
        rw [← hrows] at hr
        exact ⟨(List.mem_filter.1 hr).1, Option.isSome_iff_exists.1 (List.mem_filter.1 hr).2⟩
      cases first with
      | true =>
          obtain ⟨hin, t0, ht0⟩ := hmem r0 List.mem_cons_self
          rw [if_pos rfl, List.head?_cons, Option.bind_some, ht0, List.filter_eq_self]
          intro s hs
          obtain ⟨hs, u, hu⟩ := hmem s hs
          rw [hu, Option.any_some, decide_eq_true_eq]
          exact hshort r0 hin s hs t0 ht0 u hu
      | false =>
          obtain ⟨hin, t1, ht1⟩ := hmem _ (List.getLast_mem (List.cons_ne_nil r0 rest))
          rw [if_neg Bool.false_ne_true, List.getLast?_eq_getLast_of_ne_nil (List.cons_ne_nil _ _),
            Option.bind_some, ht1, List.filter_eq_self]
          intro s hs
          obtain ⟨hs, u, hu⟩ := hmem s hs
          rw [hu, Option.any_some, decide_eq_true_eq]
          have := hshort s hs _ hin u hu t1 ht1
          linarith

/-! ## The means -/

/-- The figures of a metric, as far as there are any. -/
def metricFigures (ts : R → Option ℚ) (rows : List R) (fn : R → Option ℚ) : List ℚ :=
  (timed ts rows).filterMap fn

theorem meanOf_eq_some {fn : R → Option ℚ} {a : ℚ} (h : meanOf rows fn = some a) :
    rows.filterMap fn ≠ [] ∧ a = mean (rows.filterMap fn) := by
  rw [meanOf] at h
  split at h
  · cases h
  · exact ⟨by assumption, (Option.some.inj h).symm⟩

theorem meanOf_le_meanOf (h : InOrder ts rows) {fn : R → Option ℚ} {seconds a b : ℚ}
    (hrise : (metricFigures ts rows fn).Pairwise (· ≤ ·))
    (ha : meanOf (window ts rows true seconds) fn = some a)
    (hb : meanOf (window ts rows false seconds) fn = some b) : a ≤ b := by
  obtain ⟨hane, rfl⟩ := meanOf_eq_some ha
  obtain ⟨hbne, rfl⟩ := meanOf_eq_some hb
  exact Means.mean_prefix_le_mean_suffix hrise ((window_isPrefix h seconds).filterMap fn)
    ((window_isSuffix h seconds).filterMap fn) hane hbne

/-! ## The line -/

variable {a b : ℚ}

/-- What has moved by a twentieth at most. -/
theorem line_eq_stable (h : 20 * |b - a| ≤ |a|) (betterLower : Bool) :
    line (some a) (some b) betterLower = .stable := by
  rcases eq_or_ne a 0 with rfl | ha
  · have hb : b = 0 := by
      rw [sub_zero, abs_zero] at h
      exact abs_nonpos_iff.1 (by linarith)
    have hsmall : abs (0 : ℚ) ≤ 5 / 100 := by norm_num
    simp only [line, if_true, if_pos hb, if_pos hsmall]
  · have hpos : 0 < |a| := abs_pos.2 ha
    have hle : abs ((b - a) / |a|) ≤ 5 / 100 := by
      rw [abs_div, abs_abs, div_le_iff₀ hpos]
      linarith
    simp only [line, if_neg ha, if_pos hle]

/-- What has grown by more than a twentieth. -/
theorem line_grown (ha : 0 ≤ a) (h : 21 * a < 20 * b) :
    line (some a) (some b) true = .grewFromZero ∨
      ∃ d, 5 / 100 < d ∧ line (some a) (some b) true = .drift d := by
  rcases ha.eq_or_lt with rfl | hpos
  · have hb : b ≠ 0 := by
      rintro rfl
      simp at h
    left
    simp [line, hb]
  · have hd : 5 / 100 < (b - a) / a := by
      rw [lt_div_iff₀ hpos]
      linarith
    have hlarge : ¬ abs ((b - a) / |a|) ≤ 5 / 100 := by
      rw [abs_of_pos hpos, not_le]
      exact hd.trans_le (le_abs_self _)
    have hgrew : decide (0 < (b - a) / |a|) = true := by
      rw [abs_of_pos hpos, decide_eq_true_eq]
      linarith
    right
    refine ⟨(b - a) / |a|, ?_, ?_⟩
    · rwa [abs_of_pos hpos]
    · simp only [line, if_neg hpos.ne', if_neg hlarge, if_pos hgrew]

/-- What has fallen by more than a twentieth. -/
theorem line_fallen (ha : 0 < a) (h : 20 * b < 19 * a) (betterLower : Bool) :
    line (some a) (some b) betterLower
      = if betterLower then .improved ((b - a) / a) else .drift ((b - a) / a) := by
  have hd : (b - a) / a < -(5 / 100) := by
    rw [div_lt_iff₀ ha]
    linarith
  have hlarge : ¬ abs ((b - a) / |a|) ≤ 5 / 100 := by
    rw [abs_of_pos ha, not_le]
    exact lt_of_lt_of_le (by linarith) (neg_le_abs _)
  have hfell : decide (0 < (b - a) / |a|) = false := by
    rw [abs_of_pos ha, decide_eq_false_iff_not]
    linarith
  simp only [line, if_neg ha.ne', if_neg hlarge, hfell]
  cases betterLower <;> simp [abs_of_pos ha]

/-- What has not fallen is not said to have. -/
theorem line_risen (h : a ≤ b) (betterLower : Bool) (d : ℚ) :
    line (some a) (some b) betterLower ≠ if betterLower then .improved d else .drift d := by
  rcases eq_or_ne a 0 with rfl | ha
  · rcases eq_or_ne b 0 with rfl | hb
    · rw [line_eq_stable (by simp)]
      cases betterLower <;> simp
    · cases betterLower <;> simp [line, hb]
  · by_cases hsmall : abs ((b - a) / |a|) ≤ 5 / 100
    · simp only [line, if_neg ha, if_pos hsmall]
      cases betterLower <;> simp
    · have hgrew : 0 < (b - a) / |a| := by
        refine lt_of_le_of_ne (div_nonneg (sub_nonneg.2 h) (abs_nonneg a)) fun hzero => hsmall ?_
        rw [← hzero]
        norm_num
      simp only [line, if_neg ha, if_neg hsmall, hgrew]
      cases betterLower <;> simp

theorem line_self (a : Option ℚ) (betterLower : Bool) :
    line a a betterLower = .notMeasured ∨ line a a betterLower = .stable := by
  cases a with
  | none => exact Or.inl rfl
  | some a => exact Or.inr (line_eq_stable (by simp) betterLower)

/-- The unit of a metric says nothing about its drift. -/
theorem line_div {c : ℚ} (hc : 0 < c) (betterLower : Bool) :
    line (some (a / c)) (some (b / c)) betterLower = line (some a) (some b) betterLower := by
  have hquot : (b / c - a / c) / |a / c| = (b - a) / |a| := by
    rw [abs_div, abs_of_pos hc, ← sub_div, div_div_div_cancel_right₀ hc.ne']
  simp only [line, div_eq_zero_iff, hc.ne', or_false, hquot]

/-- The line of a metric that both hours have figures of. -/
theorem soakLine_eq {m : Metric R} (ha : meanOf (window ts rows true) m.fn = some a)
    (hb : meanOf (window ts rows false) m.fn = some b) :
    soakLine ts rows m = line (some a) (some b) m.betterLower := by
  rw [soakLine, ha, hb]
  cases hunit : m.inMiB with
  | true =>
      simp only [Metric.scale, hunit, if_true, Option.getD_some]
      exact line_div (by norm_num) m.betterLower
  | false => simp only [Metric.scale, hunit, Bool.false_eq_true, if_false]

/-! ## The analysis -/

/-- The figures of a metric in the first and in the last hour. -/
def firstHour (ts : R → Option ℚ) (rows : List R) (m : Metric R) : List ℚ :=
  (window ts rows true).filterMap m.fn

def lastHour (ts : R → Option ℚ) (rows : List R) (m : Metric R) : List ℚ :=
  (window ts rows false).filterMap m.fn

/-- What the line of a metric says. -/
structure Sound (ts : R → Option ℚ) (rows : List R) (m : Metric R) : Prop where
  /-- Nothing drifts within an hour. -/
  short : (∀ r ∈ rows, ∀ s ∈ rows, ∀ t ∈ ts r, ∀ u ∈ ts s, u ≤ t + 3600) →
    soakLine ts rows m = .notMeasured ∨ soakLine ts rows m = .stable
  /-- What never falls is not said to have fallen, unless an hour without figures counts as zero. -/
  rising : (metricFigures ts rows m.fn).Pairwise (· ≤ ·) →
    (m.inMiB = true → lastHour ts rows m ≠ [] ∧
      (firstHour ts rows m = [] → ∀ y ∈ lastHour ts rows m, 0 ≤ y)) →
    ∀ d, soakLine ts rows m ≠ if m.betterLower then .improved d else .drift d
  /-- What has grown by more than a twentieth from the one hour to the other is named, if it
      should be low. -/
  grown : m.betterLower = true → firstHour ts rows m ≠ [] → lastHour ts rows m ≠ [] →
    (∀ x ∈ firstHour ts rows m, 0 ≤ x ∧ ∀ y ∈ lastHour ts rows m, 21 * x < 20 * y) →
    soakLine ts rows m = .grewFromZero ∨ ∃ d, 5 / 100 < d ∧ soakLine ts rows m = .drift d
  /-- What has fallen by more than a twentieth is named, if it should be high. -/
  fallen : m.betterLower = false → firstHour ts rows m ≠ [] → lastHour ts rows m ≠ [] →
    (∀ x ∈ firstHour ts rows m, 0 < x ∧ ∀ y ∈ lastHour ts rows m, 20 * y < 19 * x) →
    ∃ d, soakLine ts rows m = .drift d
  /-- What stays within a twentieth is stable. -/
  steady : firstHour ts rows m ≠ [] → lastHour ts rows m ≠ [] →
    (∀ x ∈ firstHour ts rows m, ∀ y ∈ lastHour ts rows m,
      0 ≤ x ∧ 19 * x ≤ 20 * y ∧ 20 * y ≤ 21 * x) →
    soakLine ts rows m = .stable
  /-- Without figures in one of the hours a metric is not measured. -/
  unmeasured : m.inMiB = false →
    (soakLine ts rows m = .notMeasured ↔ firstHour ts rows m = [] ∨ lastHour ts rows m = [])
  /-- A metric in MiB that the last hour has no figures of has fallen to zero. -/
  lost : m.inMiB = true → firstHour ts rows m ≠ [] → (∀ x ∈ firstHour ts rows m, 0 < x) →
    lastHour ts rows m = [] →
    soakLine ts rows m = if m.betterLower then .improved (-1) else .drift (-1)
  /-- One that the first hour has no figures of has grown from zero. -/
  appeared : m.inMiB = true → firstHour ts rows m = [] → lastHour ts rows m ≠ [] →
    (∀ y ∈ lastHour ts rows m, 0 < y) → soakLine ts rows m = .grewFromZero
  /-- One without figures in both hours is stable. -/
  absent : m.inMiB = true → firstHour ts rows m = [] → lastHour ts rows m = [] →
    soakLine ts rows m = .stable

theorem meanOf_firstHour {m : Metric R} (h : firstHour ts rows m ≠ []) :
    meanOf (window ts rows true) m.fn = some (mean (firstHour ts rows m)) := if_neg h

theorem meanOf_lastHour {m : Metric R} (h : lastHour ts rows m ≠ []) :
    meanOf (window ts rows false) m.fn = some (mean (lastHour ts rows m)) := if_neg h

theorem meanOf_firstHour_none {m : Metric R} (h : firstHour ts rows m = []) :
    meanOf (window ts rows true) m.fn = none := if_pos h

theorem meanOf_lastHour_none {m : Metric R} (h : lastHour ts rows m = []) :
    meanOf (window ts rows false) m.fn = none := if_pos h

/-- A mean in MiB, zero without figures. -/
def mib (figures : List ℚ) : ℚ := if figures = [] then 0 else mean figures / 1048576

theorem scale_meanOf {m : Metric R} (hunit : m.inMiB = true) (rows : List R) :
    m.scale (meanOf rows m.fn) = some (mib (rows.filterMap m.fn)) := by
  by_cases hnone : rows.filterMap m.fn = [] <;> simp [Metric.scale, meanOf, mib, hunit, hnone]

theorem soakLine_inMiB {m : Metric R} (hunit : m.inMiB = true) :
    soakLine ts rows m = line (some (mib (firstHour ts rows m)))
      (some (mib (lastHour ts rows m))) m.betterLower := by
  rw [soakLine, scale_meanOf hunit, scale_meanOf hunit]
  rfl

theorem soakLine_notInMiB {m : Metric R} (hunit : m.inMiB = false) :
    soakLine ts rows m = line (meanOf (window ts rows true) m.fn)
      (meanOf (window ts rows false) m.fn) m.betterLower := by
  rw [soakLine]
  simp only [Metric.scale, hunit, Bool.false_eq_true, if_false]

theorem mib_pos {figures : List ℚ} (hne : figures ≠ []) (hpos : ∀ x ∈ figures, 0 < x) :
    0 < mib figures := by
  obtain ⟨x, hx, hmean⟩ := Means.exists_le_mean hne
  rw [mib, if_neg hne]
  exact div_pos ((hpos x hx).trans_le hmean) (by norm_num)

theorem line_eq_notMeasured_iff (a b : Option ℚ) (betterLower : Bool) :
    line a b betterLower = .notMeasured ↔ a = none ∨ b = none := by
  cases a with
  | none => simp [line]
  | some a =>
      cases b with
      | none => simp [line]
      | some b =>
          simp only [line, reduceCtorEq, or_self, iff_false]
          repeat' split
          all_goals simp

/-- **The drift analysis.** -/
theorem soakLine_sound (m : Metric R) (h : InOrder ts rows) : Sound ts rows m := by
  constructor
  · intro hshort
    rw [soakLine, window_eq_timed hshort true, window_eq_timed hshort false]
    exact line_self _ _
  · intro hrise hmissing d
    by_cases hlast : lastHour ts rows m = []
    · -- no figures in the last hour: not measured
      have hunit : m.inMiB = false := by
        cases hunit : m.inMiB with
        | false => rfl
        | true => exact absurd hlast (hmissing hunit).1
      rw [soakLine_notInMiB hunit, meanOf_lastHour_none hlast,
        (line_eq_notMeasured_iff _ _ _).2 (Or.inr rfl)]
      cases m.betterLower <;> simp
    by_cases hfirst : firstHour ts rows m = []
    · cases hunit : m.inMiB with
      | false =>
          rw [soakLine_notInMiB hunit, meanOf_firstHour_none hfirst,
            (line_eq_notMeasured_iff _ _ _).2 (Or.inl rfl)]
          cases m.betterLower <;> simp
      | true =>
          have hle : 0 ≤ mean (lastHour ts rows m) :=
            Means.le_mean hlast ((hmissing hunit).2 hfirst)
          rw [soakLine_inMiB hunit]
          refine line_risen ?_ _ d
          rw [mib, if_pos hfirst, mib, if_neg hlast]
          exact div_nonneg hle (by norm_num)
    · have ha := meanOf_firstHour hfirst
      have hb := meanOf_lastHour hlast
      rw [soakLine_eq ha hb]
      exact line_risen (meanOf_le_meanOf h hrise ha hb) _ d
  · intro hlow hfirst hlast hgrown
    obtain ⟨x, hx, hxmean⟩ := Means.exists_mean_le hfirst
    obtain ⟨y, hy, hymean⟩ := Means.exists_le_mean hlast
    have hxy := (hgrown x hx).2 y hy
    rw [soakLine_eq (meanOf_firstHour hfirst) (meanOf_lastHour hlast), hlow]
    refine line_grown (Means.le_mean hfirst fun z hz => (hgrown z hz).1) ?_
    linarith
  · intro hhigh hfirst hlast hfallen
    obtain ⟨x, hx, hxmean⟩ := Means.exists_le_mean hfirst
    obtain ⟨y, hy, hymean⟩ := Means.exists_mean_le hlast
    obtain ⟨hxpos, hxy⟩ := hfallen x hx
    have hfell := hxy y hy
    rw [soakLine_eq (meanOf_firstHour hfirst) (meanOf_lastHour hlast), hhigh,
      line_fallen (hxpos.trans_le hxmean) (by linarith)]
    exact ⟨_, rfl⟩
  · intro hfirst hlast hsteady
    obtain ⟨x, hx, hxmean⟩ := Means.exists_mean_le hfirst
    obtain ⟨x', hx', hxmean'⟩ := Means.exists_le_mean hfirst
    obtain ⟨y, hy, hymean⟩ := Means.exists_mean_le hlast
    obtain ⟨y', hy', hymean'⟩ := Means.exists_le_mean hlast
    obtain ⟨hnonneg, hlow, -⟩ := hsteady x hx y' hy'
    obtain ⟨hnonneg', -, hhigh⟩ := hsteady x' hx' y hy
    rw [soakLine_eq (meanOf_firstHour hfirst) (meanOf_lastHour hlast)]
    refine line_eq_stable ?_ _
    rw [abs_of_nonneg (hnonneg'.trans hxmean')]
    rcases abs_cases (mean (lastHour ts rows m) - mean (firstHour ts rows m)) with
      ⟨habs, -⟩ | ⟨habs, -⟩
    · rw [habs]
      linarith
    · rw [habs]
      linarith
  · intro hunit
    rw [soakLine_notInMiB hunit, line_eq_notMeasured_iff]
    refine or_congr ?_ ?_
    · rw [meanOf, ite_eq_left_iff]
      simp [firstHour]
    · rw [meanOf, ite_eq_left_iff]
      simp [lastHour]
  · intro hunit hfirst hpos hlast
    have hmean := mib_pos hfirst hpos
    have hzero : mib (lastHour ts rows m) = 0 := if_pos hlast
    rw [soakLine_inMiB hunit, hzero, line_fallen hmean (by linarith), zero_sub, neg_div,
      div_self hmean.ne']
  · intro hunit hfirst hlast hpos
    have hzero : mib (firstHour ts rows m) = 0 := if_pos hfirst
    rw [soakLine_inMiB hunit, hzero]
    simp [line, (mib_pos hlast hpos).ne']
  · intro hunit hfirst hlast
    rw [soakLine_inMiB hunit, mib, if_pos hfirst, mib, if_pos hlast]
    exact line_eq_stable (by simp) _

/-- A catalog that grows for five hours. -/
theorem soakLine_sound_growing :
    let rows : List PipelineRow :=
      [⟨some 0, none, none, some 1048576, none⟩, ⟨some 9000, none, none, some 2097152, none⟩,
       ⟨some 18000, none, none, some 3145728, none⟩]
    let m : Metric PipelineRow := ⟨"catalog db (MiB)", (·.pgDatabaseSizeBytes), true, true⟩
    soakLine PipelineRow.ts rows m = .grewFromZero ∨
      ∃ d, 5 / 100 < d ∧ soakLine PipelineRow.ts rows m = .drift d := by
  intro rows m
  have horder : InOrder PipelineRow.ts rows := by norm_num [InOrder, rows]
  have hfirst : firstHour PipelineRow.ts rows m = [1048576] := by decide +kernel
  have hlast : lastHour PipelineRow.ts rows m = [3145728] := by decide +kernel
  refine (soakLine_sound m horder).grown rfl ?_ ?_ ?_
  · simp [hfirst]
  · simp [hlast]
  · norm_num [hfirst, hlast]

end AnalyticsTesting.Tests
