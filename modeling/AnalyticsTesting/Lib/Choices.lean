import Mathlib.Algebra.BigOperators.Group.List.Basic
import Mathlib.Algebra.Order.BigOperators.Group.List
import Mathlib.Algebra.Order.Field.Basic
import Mathlib.Tactic.Linarith

set_option autoImplicit false

/-! # Weighted choices

Python's `random.choices(population, weights)`: the running sums of the weights, searched with
`bisect`. With weights that are not negative, position `i` is drawn exactly where the drawn number
falls between the sums before and after it (`choose_eq_some_iff`), so what has no weight is never
drawn (`choose_pos`). -/

namespace Choices

/-! ## `bisect.bisect_right` -/

section Bisect

/-- The loop, where `above i` says whether the element at `i` is above the number that is searched;
an interval of `fuel` elements is searched in at most as many rounds. -/
def bisectLoop (above : Nat → Bool) : Nat → Nat → Nat → Nat
  | 0, lo, _ => lo
  | fuel + 1, lo, hi =>
      if lo < hi then
        let mid := (lo + hi) / 2
        if above mid then bisectLoop above fuel lo mid else bisectLoop above fuel (mid + 1) hi
      else lo

/-- `bisect_right(a, x, lo, hi)`. -/
def bisectRight (above : Nat → Bool) (lo hi : Nat) : Nat := bisectLoop above (hi - lo) lo hi

theorem bisectLoop_le (above : Nat → Bool) (fuel : Nat) : ∀ {lo hi : Nat}, lo ≤ hi →
    bisectLoop above fuel lo hi ≤ hi := by
  induction fuel with
  | zero => exact fun hle => hle
  | succ fuel ih =>
      intro lo hi hle
      rw [bisectLoop]
      dsimp only
      split_ifs with hlt hmid
      · have hle' : lo ≤ (lo + hi) / 2 := by omega
        exact (ih hle').trans (by omega)
      · exact ih (by omega)
      · exact hle

/-- The elements are in order. -/
def Sorted (above : Nat → Bool) (hi : Nat) : Prop :=
  ∀ i j, i ≤ j → j < hi → above i = true → above j = true

/-- The loop keeps that nothing before `lo` is above, and that what is at `hi` is, or is the end. -/
theorem bisectLoop_spec {above : Nat → Bool} {last : Nat} (hsorted : Sorted above last)
    (fuel : Nat) : ∀ {lo hi : Nat}, lo ≤ hi → hi ≤ last → hi - lo ≤ fuel →
      (∀ i < lo, above i = false) → hi = last ∨ above hi = true →
      (∀ i < bisectLoop above fuel lo hi, above i = false) ∧
        (bisectLoop above fuel lo hi = last ∨ above (bisectLoop above fuel lo hi) = true) := by
  induction fuel with
  | zero =>
      intro lo hi hle _ hfuel hbelow habove
      obtain rfl : lo = hi := by omega
      exact ⟨hbelow, habove⟩
  | succ fuel ih =>
      intro lo hi hle hlast hfuel hbelow habove
      rw [bisectLoop]
      dsimp only
      split_ifs with hlt hmid
      · exact ih (by omega) (by omega) (by omega) hbelow (Or.inr hmid)
      · refine ih (by omega) hlast (by omega) (fun i hi' => ?_) habove
        by_contra hi
        exact hmid (hsorted i _ (by omega) (by omega) (by simpa using hi))
      · obtain rfl : lo = hi := by omega
        exact ⟨hbelow, habove⟩

/-- **Where `bisect_right` ends up** in a sorted sequence: at the first element above the number
that is searched, or at the end. -/
theorem bisectRight_eq_iff {above : Nat → Bool} {hi i : Nat} (hsorted : Sorted above hi) :
    bisectRight above 0 hi = i ↔
      i ≤ hi ∧ (∀ j < i, above j = false) ∧ (i = hi ∨ above i = true) := by
  obtain ⟨hbelow', hend'⟩ := bisectLoop_spec hsorted (hi - 0) (Nat.zero_le hi) le_rfl le_rfl
    (fun i hi' => absurd hi' (Nat.not_lt_zero i)) (Or.inl rfl)
  have hle' : bisectRight above 0 hi ≤ hi := bisectLoop_le above _ (Nat.zero_le hi)
  constructor
  · rintro rfl
    exact ⟨hle', hbelow', hend'⟩
  · rintro ⟨hle, hbelow, hend⟩
    rcases lt_trichotomy (bisectRight above 0 hi) i with h | h | h
    · rcases hend' with hlast | habove
      · exact absurd (hlast.symm.trans_lt h) (not_lt.2 hle)
      · cases (hbelow _ h).symm.trans habove
    · exact h
    · rcases hend with rfl | habove
      · exact absurd h (not_lt.2 hle')
      · cases (hbelow' _ h).symm.trans habove

end Bisect

/-! ## `random.choices` -/

section Choose

variable {K : Type*} [Field K] [LinearOrder K]

/-- `itertools.accumulate(weights)`, from a start value. -/
def accumulate (start : K) : List K → List K
  | [] => []
  | w :: weights => (start + w) :: accumulate (start + w) weights

/-- The position drawn by `choices(population, weights)` where `random()` returns `u`; `none` where
it raises: there is nothing to choose from, or the weights sum to zero or less. -/
def choose (weights : List K) (u : K) : Option Nat :=
  let cum := accumulate 0 weights
  match cum.getLast? with
  | none => none
  | some total =>
      if total ≤ 0 then none
      else some (bisectRight (fun i => decide (u * total < cum.getD i 0)) 0 (weights.length - 1))

/-- The weight before a position. -/
def before (weights : List K) (i : Nat) : K := (weights.take i).sum

omit [LinearOrder K] in
theorem before_succ {weights : List K} {i : Nat} (h : i < weights.length) :
    before weights (i + 1) = before weights i + weights[i] := by
  rw [before, before, List.sum_take_succ _ _ h]

omit [LinearOrder K] in
@[simp] theorem before_length (weights : List K) : before weights weights.length = weights.sum := by
  rw [before, List.take_length]

omit [LinearOrder K] in
@[simp] theorem length_accumulate (start : K) (weights : List K) :
    (accumulate start weights).length = weights.length := by
  induction weights generalizing start with
  | nil => rfl
  | cons w weights ih => simp [accumulate, ih]

omit [LinearOrder K] in
/-- The running sums are the weights up to and with a position. -/
theorem getElem?_accumulate (start : K) {weights : List K} {i : Nat} (h : i < weights.length) :
    (accumulate start weights)[i]? = some (start + before weights (i + 1)) := by
  induction weights generalizing start i with
  | nil => simp at h
  | cons w weights ih =>
      cases i with
      | zero => simp [accumulate, before]
      | succ i =>
          rw [accumulate, List.getElem?_cons_succ, ih (start + w) (by simpa using h)]
          simp [before, add_assoc]

omit [LinearOrder K] in
theorem getLast?_accumulate {weights : List K} (h : weights ≠ []) :
    (accumulate 0 weights).getLast? = some weights.sum := by
  have hpos := List.length_pos_of_ne_nil h
  rw [List.getLast?_eq_getElem?, length_accumulate, getElem?_accumulate 0 (by omega), zero_add,
    Nat.sub_add_cancel hpos, before_length]

variable [IsStrictOrderedRing K]

theorem before_mono {weights : List K} (hw : ∀ w ∈ weights, 0 ≤ w) : Monotone (before weights) := by
  refine monotone_nat_of_le_succ fun i => ?_
  by_cases h : i < weights.length
  · rw [before_succ h]
    exact le_add_of_nonneg_right (hw _ (List.getElem_mem h))
  · rw [before, before, List.take_of_length_le (not_lt.1 h),
      List.take_of_length_le (by omega)]

omit [IsStrictOrderedRing K] in
/-- `choices` raises exactly where the weights do not sum to more than zero. -/
theorem choose_isSome_iff (weights : List K) (u : K) :
    (choose weights u).isSome ↔ 0 < weights.sum := by
  unfold choose
  dsimp only
  by_cases hne : weights = []
  · simp [hne, accumulate]
  · rw [getLast?_accumulate hne]
    dsimp only
    split
    case isTrue hle => simpa using hle
    case isFalse hlt => simpa using hlt

/-- **The drawn position** is where the drawn number falls between the sums before and after. -/
theorem choose_eq_some_iff {weights : List K} (hw : ∀ w ∈ weights, 0 ≤ w) (hpos : 0 < weights.sum)
    {u : K} (hlt : u < 1) {i : Nat} :
    choose weights u = some i ↔ i < weights.length ∧ (∀ j < i, before weights (j + 1) ≤
      u * weights.sum) ∧ u * weights.sum < before weights (i + 1) := by
  have hne : weights ≠ [] := by
    rintro rfl
    simp at hpos
  have hlen := List.length_pos_of_ne_nil hne
  have hget : ∀ j ≤ weights.length - 1,
      (accumulate 0 weights).getD j 0 = before weights (j + 1) := by
    intro j hj
    rw [List.getD_eq_getElem?_getD, getElem?_accumulate 0 (by omega), zero_add, Option.getD_some]
  have hsorted : Sorted (fun j => decide (u * weights.sum < (accumulate 0 weights).getD j 0))
      (weights.length - 1) := by
    intro j k hjk hk hj
    rw [decide_eq_true_eq, hget j (by omega)] at hj
    rw [decide_eq_true_eq, hget k (by omega)]
    exact hj.trans_le (before_mono hw (by omega))
  have hlast : u * weights.sum < before weights weights.length := by
    rw [before_length]
    exact mul_lt_of_lt_one_left hpos hlt
  unfold choose
  dsimp only
  rw [getLast?_accumulate hne]
  dsimp only
  rw [if_neg (not_le.2 hpos), Option.some.injEq, bisectRight_eq_iff hsorted]
  constructor
  · rintro ⟨hi, hbelow, hend⟩
    refine ⟨by omega, fun j hj => ?_, ?_⟩
    · rw [← hget j (by omega)]
      exact not_lt.1 (of_decide_eq_false (hbelow j hj))
    · rcases hend with rfl | habove
      · rwa [Nat.sub_add_cancel hlen]
      · rw [← hget i hi]
        exact of_decide_eq_true habove
  · rintro ⟨hi, hbelow, habove⟩
    refine ⟨by omega, fun j hj => ?_, Or.inr ?_⟩
    · rw [decide_eq_false_iff_not, hget j (by omega)]
      exact not_lt.2 (hbelow j hj)
    · rwa [decide_eq_true_eq, hget i (by omega)]

/-- The same with the two sums around the position. -/
theorem choose_eq_some_iff_between {weights : List K} (hw : ∀ w ∈ weights, 0 ≤ w)
    (hpos : 0 < weights.sum) {u : K} (hnonneg : 0 ≤ u) (hlt : u < 1) {i : Nat} :
    choose weights u = some i ↔ i < weights.length ∧ before weights i ≤ u * weights.sum ∧
      u * weights.sum < before weights (i + 1) := by
  rw [choose_eq_some_iff hw hpos hlt]
  refine and_congr_right fun _ => and_congr_left fun _ => ?_
  constructor
  · intro h
    cases i with
    | zero => simpa [before] using mul_nonneg hnonneg hpos.le
    | succ i => exact h i (Nat.lt_succ_self i)
  · intro h j hj
    exact (before_mono hw hj).trans h

/-- What has no weight is never drawn. -/
theorem choose_pos {weights : List K} (hw : ∀ w ∈ weights, 0 ≤ w) {u : K} (hnonneg : 0 ≤ u)
    (hlt : u < 1) {i : Nat} (h : choose weights u = some i) :
    ∃ w, weights[i]? = some w ∧ 0 < w := by
  have hpos := (choose_isSome_iff weights u).1 (by rw [h]; rfl)
  obtain ⟨hi, hbelow, habove⟩ := (choose_eq_some_iff_between hw hpos hnonneg hlt).1 h
  refine ⟨weights[i], List.getElem?_eq_getElem hi, ?_⟩
  rw [before_succ hi] at habove
  linarith

end Choose

end Choices
