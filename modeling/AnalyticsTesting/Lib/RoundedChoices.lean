import AnalyticsTesting.Lib.Binary64
import AnalyticsTesting.Lib.Choices
import Mathlib.Algebra.Order.Floor.Semiring
import Mathlib.Order.Interval.Finset.Nat

set_option autoImplicit false

/-! # Weighted choices in floating point

`random.choices` as it computes: the running sums of the weights are rounded, a sum that is not
finite is refused, and the drawn number is rounded too (`chooseIn`). In the format that does not
round it is `choose` (`chooseIn_exact`). In doubles a position is still drawn only if it has a
weight, and its share of the `2 ^ 53` numbers is off by less than two more than the number of
weights (`abs_hitsIn_sub_lt`), unless all of them together are subnormal. -/

namespace Choices

open Binary64

variable {fl : FloatFormat}

/-- `list(itertools.accumulate(weights))`, from the first weight on. -/
def cumulative (fl : FloatFormat) (sum : Double) : List ℚ → List Double
  | [] => [sum]
  | w :: weights => sum :: cumulative fl (fl.add sum (.fin w)) weights

/-- The position drawn by `choices(population, weights)` where `random()` returns `u`; `none` where
it raises: there is nothing to choose from, or the sum of the weights is zero or less, or not
finite. -/
def chooseIn (fl : FloatFormat) (weights : List ℚ) (u : ℚ) : Option Nat :=
  match weights with
  | [] => none
  | w :: rest =>
      let cum := cumulative fl (.fin w) rest
      match cum.getLast? with
      | some (.fin total) =>
          if total ≤ 0 then none
          else
            let x := fl.mul (.fin u) (.fin total)
            some (bisectRight (fun i => x.lt (cum.getD i (.fin 0))) 0 rest.length)
      | _ => none

/-! ## Running sums -/

theorem getElem?_cumulative (sum : Double) {weights : List ℚ} {i : Nat} (h : i ≤ weights.length) :
    (cumulative fl sum weights)[i]? = some (fl.sumFrom sum (weights.take i)) := by
  induction weights generalizing sum i with
  | nil =>
      obtain rfl : i = 0 := by simpa using h
      rfl
  | cons w weights ih =>
      cases i with
      | zero => rfl
      | succ i => exact ih (fl.add sum (.fin w)) (by simpa using h)

@[simp] theorem length_cumulative (sum : Double) (weights : List ℚ) :
    (cumulative fl sum weights).length = weights.length + 1 := by
  induction weights generalizing sum with
  | nil => rfl
  | cons w weights ih => simp [cumulative, ih]

theorem getLast?_cumulative (sum : Double) (weights : List ℚ) :
    (cumulative fl sum weights).getLast? = some (fl.sumFrom sum weights) := by
  rw [List.getLast?_eq_getElem?, length_cumulative, Nat.add_sub_cancel,
    getElem?_cumulative sum le_rfl, List.take_length]

theorem chooseIn_cons {w : ℚ} {rest : List ℚ} {u : ℚ} : chooseIn fl (w :: rest) u =
    match fl.sumFrom (.fin w) rest with
    | .fin total =>
        if total ≤ 0 then none
        else some (bisectRight (fun i => (fl.mul (.fin u) (.fin total)).lt
          ((cumulative fl (.fin w) rest).getD i (.fin 0))) 0 rest.length)
    | _ => none := by
  rw [chooseIn]
  dsimp only
  rw [getLast?_cumulative]
  cases fl.sumFrom (.fin w) rest <;> rfl

theorem cumulative_exact (sum : ℚ) (weights : List ℚ) :
    cumulative .exact (.fin sum) weights = (sum :: accumulate sum weights).map Double.fin := by
  induction weights generalizing sum with
  | nil => rfl
  | cons w weights ih =>
      show _ :: cumulative .exact (.fin (sum + w)) weights = _
      rw [ih]
      rfl

/-- **Without rounding it is the choice in exact arithmetic.** -/
theorem chooseIn_exact (weights : List ℚ) (u : ℚ) :
    chooseIn .exact weights u = choose weights u := by
  cases weights with
  | nil => rfl
  | cons w rest =>
      have hcum : (w :: accumulate w rest : List ℚ) = accumulate 0 (w :: rest) := by
        rw [accumulate, zero_add]
      have hlast : FloatFormat.exact.sumFrom (.fin w) rest = .fin (w :: rest).sum := by
        have hsum : (cumulative .exact (.fin w) rest).getLast? = _ := getLast?_cumulative _ rest
        rw [cumulative_exact, hcum, List.getLast?_map, getLast?_accumulate (by simp)] at hsum
        exact (Option.some.inj hsum).symm
      rw [chooseIn_cons, hlast, choose, getLast?_accumulate (by simp), cumulative_exact, hcum]
      dsimp only
      split_ifs with hle
      · rfl
      · refine congrArg some (congrArg (bisectRight · 0 rest.length) (funext fun i => ?_))
        rw [List.getD_eq_getElem?_getD, List.getD_eq_getElem?_getD, List.getElem?_map]
        cases (accumulate 0 (w :: rest))[i]? <;> rfl

/-- The drawn position is one of the population, whatever the weights. -/
theorem lt_length_of_chooseIn {weights : List ℚ} {u : ℚ} {i : Nat}
    (h : chooseIn fl weights u = some i) : i < weights.length := by
  cases weights with
  | nil => cases h
  | cons w rest =>
      rw [chooseIn_cons] at h
      split at h
      · split at h
        · cases h
        · obtain rfl := Option.some.inj h
          exact Nat.lt_succ_of_le (bisectLoop_le _ _ (Nat.zero_le _))
      · cases h

/-- `sum(weights)`, in the order in which `choices` adds them. -/
def weightSum (fl : FloatFormat) : List ℚ → Double
  | [] => .fin 0
  | w :: rest => fl.sumFrom (.fin w) rest

/-- `choices` raises exactly where the sum of the weights is not a positive number. -/
theorem chooseIn_isSome_iff (weights : List ℚ) (u : ℚ) :
    (chooseIn fl weights u).isSome ↔ ∃ total, weightSum fl weights = .fin total ∧ 0 < total := by
  cases weights with
  | nil => simp [chooseIn, weightSum]
  | cons w rest =>
      rw [chooseIn_cons, weightSum]
      cases hsum : fl.sumFrom (.fin w) rest with
      | fin total => by_cases hle : total ≤ 0 <;> simp [hle, not_lt.2, not_le.1]
      | _ => simp

/-! ## Doubles -/

/-- The running sums of `rest` after `w`. -/
structure Sums (w : ℚ) (rest : List ℚ) (c : Nat → ℚ) : Prop where
  get : ∀ i ≤ rest.length, FloatFormat.binary64.sumFrom (.fin w) (rest.take i) = .fin (c i)

theorem exists_sums {w total : ℚ} {rest : List ℚ}
    (h : FloatFormat.binary64.sumFrom (.fin w) rest = .fin total) :
    ∃ c, Sums w rest c ∧ c rest.length = total := by
  have hfin : ∀ i, ∃ q, FloatFormat.binary64.sumFrom (.fin w) (rest.take i) = .fin q := by
    intro i
    rw [← List.take_append_drop i rest, FloatFormat.sumFrom_append] at h
    exact FloatFormat.start_of_sumFrom h
  choose c hc using hfin
  refine ⟨c, ⟨fun i _ => hc i⟩, ?_⟩
  have hlast := hc rest.length
  rw [List.take_length, h] at hlast
  exact (Double.fin.inj hlast).symm

namespace Sums

variable {w : ℚ} {rest : List ℚ} {c : Nat → ℚ} {i j : Nat} (hc : Sums w rest c)
include hc

theorem zero : c 0 = w := (Double.fin.inj (hc.get 0 (Nat.zero_le _))).symm

theorem succ (hi : i < rest.length) : c (i + 1) = nearest (c i + rest[i]) := by
  have hnext := hc.get (i + 1) hi
  rw [List.take_succ_eq_append_getElem hi, FloatFormat.sumFrom_append, hc.get i hi.le] at hnext
  exact (nearest_of_round hnext).symm

variable (hw : Representable w) (hnonneg : ∀ x ∈ w :: rest, 0 ≤ x)
include hw hnonneg

theorem nonneg (hi : i ≤ rest.length) : Representable (c i) ∧ 0 ≤ c i := by
  induction i with
  | zero =>
      rw [hc.zero]
      exact ⟨hw, hnonneg w List.mem_cons_self⟩
  | succ i ih =>
      obtain ⟨-, hpos⟩ := ih (by omega)
      have hmem := List.getElem_mem (show i < rest.length from hi)
      have hx := hnonneg _ (List.mem_cons_of_mem w hmem)
      rw [hc.succ hi]
      exact ⟨representable_nearest (add_nonneg hpos hx), nearest_nonneg (add_nonneg hpos hx)⟩

theorem le_succ (hi : i < rest.length) : c i ≤ c (i + 1) := by
  obtain ⟨hrep, hpos⟩ := hc.nonneg hw hnonneg hi.le
  have hx := hnonneg _ (List.mem_cons_of_mem w (List.getElem_mem hi))
  rw [hc.succ hi]
  exact le_nearest hrep (add_nonneg hpos hx) (le_add_of_nonneg_right hx)

theorem mono (hij : i ≤ j) (hj : j ≤ rest.length) : c i ≤ c j := by
  induction j, hij using Nat.le_induction with
  | base => exact le_rfl
  | succ j _ ih => exact (ih (by omega)).trans (hc.le_succ hw hnonneg hj)

/-- What has no weight adds nothing. -/
theorem succ_of_zero (hi : i < rest.length) (hzero : rest[i] = 0) : c (i + 1) = c i := by
  obtain ⟨hrep, hpos⟩ := hc.nonneg hw hnonneg hi.le
  rw [hc.succ hi, hzero, add_zero]
  exact nearest_eq hrep hpos

/-- A running sum grows by the weight, up to the error of one addition. -/
theorem abs_step_sub_le (hi : i < rest.length) :
    |c (i + 1) - c i - rest[i]| ≤ slack (c rest.length) := by
  obtain ⟨-, hpos⟩ := hc.nonneg hw hnonneg hi.le
  have hx := hnonneg _ (List.mem_cons_of_mem w (List.getElem_mem hi))
  have herr := (abs_nearest_sub_le (add_nonneg hpos hx)).2
  rw [← hc.succ hi, ← sub_sub] at herr
  exact herr.trans (slack_mono (hc.mono hw hnonneg hi le_rfl))

end Sums

/-! ## Shares of the drawn numbers -/

/-- For how many of the `2 ^ 53` numbers the rounded product with `total` is less than `x`. -/
def below (total x : ℚ) : Nat :=
  ((Finset.range (2 ^ 53)).filter fun k : Nat => nearest (k / 2 ^ 53 * total) < x).card

variable {total : ℚ}

/-- A product that is a step of the drawn numbers below `x` is rounded to less than `x`. -/
theorem nearest_lt_of_add_le (htotal : minNormal < total) {x y : ℚ} (hy : 0 ≤ y) (hlt : y < total)
    (h : y + total / 2 ^ 53 ≤ x) : nearest y < x := by
  have herr := (abs_le.1 (abs_nearest_sub_le hy).1).2
  have hslack : slack y < total / 2 ^ 53 :=
    (div_lt_div_iff_of_pos_right (by norm_num)).2 (max_lt hlt htotal)
  linarith

/-- **The numbers below a running sum** are as many as its share says, up to less than one. -/
theorem abs_below_sub_lt (htotal : minNormal < total) {x : ℚ} (hx : Representable x) (h0 : 0 ≤ x)
    (hle : x ≤ total) : |(below total x : ℚ) - 2 ^ 53 * x / total| < 1 := by
  have hpos : 0 < total := minNormal_pos.trans htotal
  have hshare : 0 ≤ 2 ^ 53 * x / total := by positivity
  have hupper : below total x ≤ ⌈2 ^ 53 * x / total⌉₊ := by
    rw [← Finset.card_range ⌈2 ^ 53 * x / total⌉₊]
    refine Finset.card_le_card fun k hk => ?_
    obtain ⟨-, hlt⟩ := Finset.mem_filter.1 hk
    rw [Finset.mem_range, Nat.lt_ceil, lt_div_iff₀ hpos]
    by_contra hge
    have hq : (0 : ℚ) ≤ k / 2 ^ 53 * total := by positivity
    refine absurd (le_nearest hx hq ?_) (not_le.2 hlt)
    rw [div_mul_eq_mul_div, le_div_iff₀ (by norm_num)]
    linarith
  have hlower : ⌊2 ^ 53 * x / total⌋₊ ≤ below total x := by
    rw [← Finset.card_range ⌊2 ^ 53 * x / total⌋₊]
    refine Finset.card_le_card fun k hk => ?_
    have hk' : ((k + 1 : Nat) : ℚ) ≤ 2 ^ 53 * x / total :=
      (Nat.le_floor_iff hshare).1 (Finset.mem_range.1 hk)
    rw [le_div_iff₀ hpos] at hk'
    push_cast at hk'
    have hstep : (k : ℚ) / 2 ^ 53 * total + total / 2 ^ 53 ≤ x := by
      rw [div_mul_eq_mul_div, ← add_div, div_le_iff₀ (by norm_num)]
      linarith
    have hlt : (k : ℚ) / 2 ^ 53 * total < total := by
      have : 0 < total / 2 ^ 53 := by positivity
      linarith
    refine Finset.mem_filter.2 ⟨Finset.mem_range.2 ?_,
      nearest_lt_of_add_le htotal (by positivity) hlt hstep⟩
    have hfrac : (k : ℚ) / 2 ^ 53 < 1 := by
      by_contra hge
      exact absurd (le_mul_of_one_le_left hpos.le (not_lt.1 hge)) (not_le.2 hlt)
    rw [div_lt_one (by norm_num)] at hfrac
    exact_mod_cast hfrac
  have hceil := Nat.ceil_lt_add_one hshare
  have hfloor := Nat.lt_floor_add_one (2 ^ 53 * x / total)
  have hupper' : (below total x : ℚ) ≤ ⌈2 ^ 53 * x / total⌉₊ := by exact_mod_cast hupper
  have hlower' : (⌊2 ^ 53 * x / total⌋₊ : ℚ) ≤ below total x := by exact_mod_cast hlower
  rw [abs_lt]
  constructor <;> linarith

/-- No product is rounded to the sum of the weights. -/
theorem nearest_lt_total (htotal : minNormal < total) {k : Nat} (hk : k < 2 ^ 53) :
    nearest (k / 2 ^ 53 * total) < total := by
  have hpos : 0 < total := minNormal_pos.trans htotal
  have hk' : (k : ℚ) + 1 ≤ 2 ^ 53 := by exact_mod_cast hk
  have hstep : (k : ℚ) / 2 ^ 53 * total + total / 2 ^ 53 ≤ total := by
    rw [div_mul_eq_mul_div, ← add_div, div_le_iff₀ (by norm_num)]
    nlinarith
  have : 0 < total / 2 ^ 53 := by positivity
  exact nearest_lt_of_add_le htotal (by positivity) (by linarith) hstep

/-- The running sum before a position. -/
def prev (c : Nat → ℚ) : Nat → ℚ
  | 0 => 0
  | i + 1 => c i

/-- For how many of the `2 ^ 53` numbers a position is drawn. -/
def hitsIn (weights : List ℚ) (i : Nat) : Nat :=
  ((Finset.range (2 ^ 53)).filter fun k : Nat =>
    chooseIn .binary64 weights (k / 2 ^ 53) = some i).card

section Doubles

variable {w : ℚ} {rest : List ℚ} {c : Nat → ℚ} {i : Nat}

/-- **The drawn position** is where the rounded product falls between the running sums. -/
theorem chooseIn_eq_some_iff (hc : Sums w rest c) (hlast : c rest.length = total)
    (hw : IsDouble w) (hnonneg : ∀ x ∈ w :: rest, 0 ≤ x) (htotal : minNormal < total) {k : Nat}
    (hk : k < 2 ^ 53) :
    chooseIn .binary64 (w :: rest) (k / 2 ^ 53) = some i ↔ i ≤ rest.length ∧
      prev c i ≤ nearest (k / 2 ^ 53 * total) ∧ nearest (k / 2 ^ 53 * total) < c i := by
  have hpos : 0 < total := minNormal_pos.trans htotal
  have hrep := hw.representable (hnonneg w List.mem_cons_self)
  have hsum : FloatFormat.binary64.sumFrom (.fin w) rest = .fin total := by
    rw [← hlast, ← hc.get rest.length le_rfl, List.take_length]
  have hy : (0 : ℚ) ≤ k / 2 ^ 53 * total := by positivity
  have hmul : FloatFormat.binary64.mul (.fin (k / 2 ^ 53)) (.fin total)
      = .fin (nearest (k / 2 ^ 53 * total)) :=
    round_eq_fin hy (nearest_lt_total htotal hk).le (abs_sumFrom_lt (abs_lt_of_round hw) hsum)
  have habove : ∀ j ≤ rest.length, (Double.fin (nearest (k / 2 ^ 53 * total))).lt
      ((cumulative .binary64 (.fin w) rest).getD j (.fin 0))
        = decide (nearest (k / 2 ^ 53 * total) < c j) := by
    intro j hj
    rw [List.getD_eq_getElem?_getD, getElem?_cumulative _ hj, hc.get j hj, Option.getD_some,
      Double.fin_lt_fin]
  have hsorted : Sorted (fun j => (Double.fin (nearest (k / 2 ^ 53 * total))).lt
      ((cumulative .binary64 (.fin w) rest).getD j (.fin 0))) rest.length := by
    intro j m hjm hm hj
    dsimp only at hj ⊢
    rw [habove j (by omega), decide_eq_true_eq] at hj
    rw [habove m hm.le, decide_eq_true_eq]
    exact hj.trans_le (hc.mono hrep hnonneg hjm hm.le)
  rw [chooseIn_cons, hsum]
  dsimp only
  rw [if_neg (not_le.2 hpos), Option.some.injEq, hmul, bisectRight_eq_iff hsorted]
  refine and_congr_right fun hi => and_congr ?_ ?_
  · constructor
    · intro h
      cases i with
      | zero => exact nearest_nonneg hy
      | succ i =>
          have hbelow := h i (Nat.lt_succ_self i)
          rw [habove i (by omega), decide_eq_false_iff_not, not_lt] at hbelow
          exact hbelow
    · intro h j hj
      obtain ⟨m, rfl⟩ : ∃ m, i = m + 1 := ⟨i - 1, by omega⟩
      rw [habove j (by omega), decide_eq_false_iff_not, not_lt]
      exact (hc.mono hrep hnonneg (by omega) (by omega)).trans h
  · rw [habove i hi, decide_eq_true_eq]
    refine or_iff_right_of_imp ?_
    rintro rfl
    rw [hlast]
    exact nearest_lt_total htotal hk

theorem prev_le (hc : Sums w rest c) (hw : Representable w) (hnonneg : ∀ x ∈ w :: rest, 0 ≤ x)
    (hi : i ≤ rest.length) : Representable (prev c i) ∧ 0 ≤ prev c i ∧ prev c i ≤ c i := by
  cases i with
  | zero => exact ⟨representable_zero, le_rfl, (hc.nonneg hw hnonneg hi).2⟩
  | succ i =>
      obtain ⟨hrep, hpos⟩ := hc.nonneg hw hnonneg (i := i) (by omega)
      exact ⟨hrep, hpos, hc.le_succ hw hnonneg hi⟩

/-- What has a place between the running sums has a weight. -/
theorem weight_pos (hc : Sums w rest c) (hw : Representable w) (hnonneg : ∀ x ∈ w :: rest, 0 ≤ x)
    (hi : i < (w :: rest).length) (hlt : prev c i < c i) : 0 < (w :: rest)[i] := by
  refine lt_of_le_of_ne (hnonneg _ (List.getElem_mem hi)) fun hzero => hlt.ne ?_
  cases i with
  | zero =>
      rw [hc.zero]
      exact hzero
  | succ i =>
      have hi' : i < rest.length := by simpa using hi
      exact (hc.succ_of_zero hw hnonneg hi' hzero.symm).symm

/-- Its place is as wide as its weight, up to the error of one addition. -/
theorem abs_place_sub_le (hc : Sums w rest c) (hw : Representable w)
    (hnonneg : ∀ x ∈ w :: rest, 0 ≤ x) (hi : i < (w :: rest).length) :
    |c i - prev c i - (w :: rest)[i]| ≤ slack (c rest.length) := by
  cases i with
  | zero =>
      rw [hc.zero]
      simpa [prev] using (slack_pos _).le
  | succ i =>
      have hi' : i < rest.length := by simpa using hi
      exact hc.abs_step_sub_le hw hnonneg hi'

theorem weight_le (hc : Sums w rest c) (hw : ∀ x ∈ w :: rest, 0 ≤ x ∧ IsDouble x)
    (hi : i < (w :: rest).length) : (w :: rest)[i] ≤ c rest.length := by
  have hrep := (hw w List.mem_cons_self).2.representable (hw w List.mem_cons_self).1
  have hnonneg : ∀ x ∈ w :: rest, 0 ≤ x := fun x hx => (hw x hx).1
  have hle : (w :: rest)[i] ≤ c i := by
    cases i with
    | zero => exact hc.zero.ge
    | succ i =>
        have hi' : i < rest.length := by simpa using hi
        obtain ⟨hx, hdouble⟩ := hw _ (List.mem_cons_of_mem w (List.getElem_mem hi'))
        have hpos := (hc.nonneg hrep hnonneg hi'.le).2
        rw [hc.succ hi', List.getElem_cons_succ]
        exact le_nearest (hdouble.representable hx) (add_nonneg hpos hx)
          (le_add_of_nonneg_left hpos)
  exact hle.trans (hc.mono hrep hnonneg (by simpa using Nat.le_of_lt_succ hi) le_rfl)

/-- The numbers for which a position is drawn are those below its running sum, without those below
the one before. -/
theorem hitsIn_add (hc : Sums w rest c) (hlast : c rest.length = total) (hw : IsDouble w)
    (hnonneg : ∀ x ∈ w :: rest, 0 ≤ x) (htotal : minNormal < total) (hi : i ≤ rest.length) :
    hitsIn (w :: rest) i + below total (prev c i) = below total (c i) := by
  have hrep := hw.representable (hnonneg w List.mem_cons_self)
  have hle := (prev_le hc hrep hnonneg hi).2.2
  unfold hitsIn below
  rw [← Finset.card_union_of_disjoint]
  · refine congrArg Finset.card (Finset.ext fun k => ?_)
    simp only [Finset.mem_union, Finset.mem_filter, Finset.mem_range]
    constructor
    · rintro (⟨hk, hdrawn⟩ | ⟨hk, hlt⟩)
      · exact ⟨hk, ((chooseIn_eq_some_iff hc hlast hw hnonneg htotal hk).1 hdrawn).2.2⟩
      · exact ⟨hk, hlt.trans_le hle⟩
    · rintro ⟨hk, hlt⟩
      by_cases hprev : nearest (k / 2 ^ 53 * total) < prev c i
      · exact Or.inr ⟨hk, hprev⟩
      · exact Or.inl ⟨hk, (chooseIn_eq_some_iff hc hlast hw hnonneg htotal hk).2
          ⟨hi, not_lt.1 hprev, hlt⟩⟩
  · rw [Finset.disjoint_filter]
    intro k hk hdrawn
    exact not_lt.2 ((chooseIn_eq_some_iff hc hlast hw hnonneg htotal
      (Finset.mem_range.1 hk)).1 hdrawn).2.1

end Doubles

/-! ## Weights that are doubles -/

variable {weights : List ℚ} {i : Nat}

/-- The rounded sum is positive exactly if some weight is. -/
theorem weightSum_pos_iff (hw : ∀ x ∈ weights, 0 ≤ x ∧ IsDouble x)
    (hsum : weightSum .binary64 weights = .fin total) :
    0 < total ↔ ∃ x ∈ weights, 0 < x := by
  cases weights with
  | nil =>
      obtain rfl := Double.fin.inj hsum
      simp
  | cons w rest =>
      obtain ⟨c, hc, rfl⟩ := exists_sums hsum
      constructor
      · intro hpos
        by_contra! hzero
        have hnonneg : ∀ x ∈ w :: rest, 0 ≤ x := fun x hx => (hw x hx).1
        have hrep := (hw w List.mem_cons_self).2.representable (hnonneg w List.mem_cons_self)
        have hconst : ∀ i ≤ rest.length, c i = 0 := by
          intro i hi
          induction i with
          | zero =>
              rw [hc.zero]
              exact le_antisymm (hzero w List.mem_cons_self) (hnonneg w List.mem_cons_self)
          | succ i ih =>
              have hmem := List.mem_cons_of_mem w (List.getElem_mem (show i < rest.length from hi))
              rw [hc.succ_of_zero hrep hnonneg hi (le_antisymm (hzero _ hmem) (hnonneg _ hmem))]
              exact ih (by omega)
        rw [hconst _ le_rfl] at hpos
        exact lt_irrefl 0 hpos
      · rintro ⟨x, hx, hpos⟩
        obtain ⟨j, hj, rfl⟩ := List.getElem_of_mem hx
        exact hpos.trans_le (weight_le hc hw hj)

/-- **What is drawn has a weight**, unless all the weights are subnormal. -/
theorem chooseIn_pos (hw : ∀ x ∈ weights, 0 ≤ x ∧ IsDouble x) (hbig : ∃ x ∈ weights, minNormal < x)
    {k : Nat} (hk : k < 2 ^ 53) (h : chooseIn .binary64 weights (k / 2 ^ 53) = some i) :
    ∃ x, weights[i]? = some x ∧ 0 < x := by
  obtain ⟨total, hsum, -⟩ := (chooseIn_isSome_iff weights _).1 (by rw [h]; rfl)
  obtain ⟨w, rest, rfl⟩ := List.exists_cons_of_ne_nil (List.ne_nil_of_mem hbig.choose_spec.1)
  obtain ⟨c, hc, hlast⟩ := exists_sums hsum
  obtain ⟨x, hx, hnormal⟩ := hbig
  obtain ⟨j, hj, rfl⟩ := List.getElem_of_mem hx
  have htotal : minNormal < total := hlast ▸ hnormal.trans_le (weight_le hc hw hj)
  have hnonneg : ∀ x ∈ w :: rest, 0 ≤ x := fun x hx => (hw x hx).1
  have hdouble := (hw w List.mem_cons_self).2
  obtain ⟨hi, hle, hlt⟩ := (chooseIn_eq_some_iff hc hlast hdouble hnonneg htotal hk).1 h
  have hi' : i < (w :: rest).length := Nat.lt_succ_of_le hi
  exact ⟨_, List.getElem?_eq_getElem hi', weight_pos hc
    (hdouble.representable (hnonneg w List.mem_cons_self)) hnonneg hi' (hle.trans_lt hlt)⟩

/-- The errors added up: of counting the numbers below the two ends `p` and `q` of a place, of the
addition between them, and of the sum of the weights. -/
theorem share_error {w p q total sum n hits A B : ℚ} (htotal : 0 < total) (hsum : 0 < sum)
    (hw : 0 ≤ w) (hle : w ≤ sum) (hA : |A - 2 ^ 53 * q / total| < 1)
    (hB : |B - 2 ^ 53 * p / total| < 1) (hadd : hits + B = A)
    (hplace : |q - p - w| ≤ total / 2 ^ 53) (herr : |total - sum| ≤ n * (total / 2 ^ 53)) :
    |hits - 2 ^ 53 * w / sum| < n + 3 := by
  have hscale : ∀ {x e : ℚ}, |x| ≤ e * (total / 2 ^ 53) → |2 ^ 53 * x / total| ≤ e := by
    intro x e hx
    rw [abs_div, abs_of_pos htotal, div_le_iff₀ htotal, abs_mul, abs_of_pos (by norm_num)]
    linarith
  have hplace' : |2 ^ 53 * (q - p - w) / total| ≤ 1 := hscale (by rwa [one_mul])
  have hratio : w / sum ≤ 1 := (div_le_one hsum).2 hle
  have hratio0 : 0 ≤ w / sum := div_nonneg hw hsum.le
  have hn : 0 ≤ n := (abs_nonneg _).trans (hscale herr)
  have hsum' : |w / sum * (2 ^ 53 * (total - sum) / total)| ≤ n := by
    rw [abs_mul, abs_of_nonneg hratio0]
    calc _ ≤ w / sum * n := mul_le_mul_of_nonneg_left (hscale herr) hratio0
      _ ≤ n := mul_le_of_le_one_left hn hratio
  have hsplit : hits - 2 ^ 53 * w / sum = (A - 2 ^ 53 * q / total) - (B - 2 ^ 53 * p / total)
      + 2 ^ 53 * (q - p - w) / total - w / sum * (2 ^ 53 * (total - sum) / total) := by
    rw [← hadd]
    field_simp
    ring
  rw [hsplit]
  rw [abs_lt] at hA hB ⊢
  rw [abs_le] at hplace' hsum'
  constructor <;> linarith

/-- **A position is drawn as often as its weight says**, up to less than two more of the numbers
than there are weights. -/
theorem abs_hitsIn_sub_lt (hw : ∀ x ∈ weights, 0 ≤ x ∧ IsDouble x)
    (hbig : ∃ x ∈ weights, minNormal < x) {total : ℚ}
    (hsum : weightSum .binary64 weights = .fin total) (hi : i < weights.length) :
    |(hitsIn weights i : ℚ) - 2 ^ 53 * weights[i] / weights.sum| < (weights.length : ℚ) + 2 := by
  obtain ⟨w, rest, rfl⟩ := List.exists_cons_of_ne_nil (List.ne_nil_of_mem hbig.choose_spec.1)
  obtain ⟨c, hc, hlast⟩ := exists_sums hsum
  obtain ⟨x, hx, hnormal⟩ := hbig
  obtain ⟨j, hj, rfl⟩ := List.getElem_of_mem hx
  have htotal : minNormal < total := hlast ▸ hnormal.trans_le (weight_le hc hw hj)
  have hpos : 0 < total := minNormal_pos.trans htotal
  have hnonneg : ∀ x ∈ w :: rest, 0 ≤ x := fun x hx => (hw x hx).1
  have hdouble := (hw w List.mem_cons_self).2
  have hrep := hdouble.representable (hnonneg w List.mem_cons_self)
  have hi' : i ≤ rest.length := by simpa using Nat.le_of_lt_succ hi
  have hci := hc.nonneg hrep hnonneg hi'
  have hcle : c i ≤ total := hlast ▸ hc.mono hrep hnonneg hi' le_rfl
  obtain ⟨hprep, hp0, hple⟩ := prev_le hc hrep hnonneg hi'
  have hslack : slack total = total / 2 ^ 53 := slack_of_le htotal.le
  -- the numbers below the two running sums
  have hhi := abs_lt.1 (abs_below_sub_lt htotal hci.1 hci.2 hcle)
  have hlo := abs_lt.1 (abs_below_sub_lt htotal hprep hp0 (hple.trans hcle))
  have hadd : (hitsIn (w :: rest) i : ℚ) + below total (prev c i) = below total (c i) := by
    exact_mod_cast hitsIn_add hc hlast hdouble hnonneg htotal hi'
  -- the place of the position
  have hplace := abs_place_sub_le hc hrep hnonneg hi
  rw [hlast, hslack] at hplace
  -- the sum of the weights
  have hS : |total - (w :: rest).sum| ≤ rest.length * (total / 2 ^ 53) := by
    have herr := (abs_sumFrom_sub_le hrep (hnonneg w List.mem_cons_self)
      fun x hx => hnonneg x (List.mem_cons_of_mem w hx)).2.2
    rw [← sumFrom_of_eq_fin hsum, hslack] at herr
    exact herr
  have hmem := List.getElem_mem hi
  have hS0 : 0 < (w :: rest).sum :=
    (minNormal_pos.trans hnormal).trans_le (List.single_le_sum hnonneg _ hx)
  have hshare := share_error hpos hS0 (hnonneg _ hmem) (List.single_le_sum hnonneg _ hmem)
    (abs_lt.2 hhi) (abs_lt.2 hlo) hadd hplace hS
  rw [List.length_cons, Nat.cast_succ]
  linarith

end Choices
