import AnalyticsTesting.Generator.Metrics
import AnalyticsTesting.Lib.NearestRank

set_option autoImplicit false

/-! # When a percentile is the nearest rank

`percentile` computes the rank as `round(q * n + 0.5)`, and `round` takes ties to the even side. So
a rank `q * n` that is whole is kept where it is even and moved on where it is odd.
`percentile_nearestRank_iff`: the percentile is the nearest-rank one but where `q * n` is an odd
whole number and the next element is a different one. -/

namespace AnalyticsTesting.Generator

/-- `v` is the element of rank `⌈q * n⌉`: the least one such that at least `q * n` of the elements
    are at most `v`. -/
structure IsNearestRank (values : List ℚ) (q v : ℚ) : Prop where
  get : values[⌈q * values.length⌉₊ - 1]? = some v
  least : IsLeast {u | u ∈ values ∧ q * values.length ≤ NearestRank.countUpTo values u} v

/-- The rank is an odd whole number, and the element after it a different one. -/
def OddRank (values : List ℚ) (q : ℚ) : Prop :=
  ∃ k : Nat, k % 2 = 1 ∧ q * values.length = k ∧ k < values.length ∧ values[k - 1]? ≠ values[k]?

variable {values : List ℚ} {q : ℚ}

/-- The rank lies in the list. -/
theorem ceil_rank_mem (hne : values ≠ []) (hpos : 0 < q) (hle : q ≤ 1) :
    1 ≤ ⌈q * values.length⌉₊ ∧ ⌈q * values.length⌉₊ ≤ values.length := by
  have hlen : (0 : ℚ) < values.length := by exact_mod_cast List.length_pos_iff.2 hne
  refine ⟨Nat.ceil_pos.2 (mul_pos hpos hlen), Nat.ceil_le.2 ?_⟩
  calc q * values.length ≤ 1 * values.length := mul_le_mul_of_nonneg_right hle hlen.le
    _ = values.length := one_mul _

/-- The nearest rank is where it is looked for. -/
theorem isNearestRank_iff (hsorted : values.Pairwise (· ≤ ·)) (hne : values ≠ []) (hpos : 0 < q)
    (hle : q ≤ 1) {v : ℚ} :
    IsNearestRank values q v ↔ values[⌈q * values.length⌉₊ - 1]? = some v := by
  obtain ⟨hone, hlen⟩ := ceil_rank_mem hne hpos hle
  refine ⟨IsNearestRank.get, fun hget => ⟨hget, ?_⟩⟩
  obtain ⟨hi, rfl⟩ := List.getElem?_eq_some_iff.1 hget
  have hleast := NearestRank.isLeast_getElem hsorted hi
  rw [Nat.sub_add_cancel hone] at hleast
  -- a count is at least `q * n` exactly if it is at least the rank
  simpa only [Nat.ceil_le] using hleast

/-- `percentile` on a list that is not empty: the element of the rounded rank. -/
theorem percentile_eq (hne : values ≠ []) :
    percentile values q = values.getD
      (max 1 (min (values.length : Int) (roundHalfEven (q * values.length + 1 / 2))) - 1).toNat
      0 := by
  match values with
  | [] => exact absurd rfl hne
  | [v] =>
      have hindex : (max 1 (min (([v] : List ℚ).length : Int)
          (roundHalfEven (q * ([v] : List ℚ).length + 1 / 2))) - 1).toNat = 0 := by
        have hone : (([v] : List ℚ).length : Int) = 1 := rfl
        omega
      rw [hindex]
      rfl
  | _ :: _ :: _ => rfl

/-- A rank that is not an odd whole number is rounded up. -/
theorem round_rank {x : ℚ} (hx : 0 ≤ x) (heven : ∀ k : Nat, x = k → k % 2 = 0) :
    roundHalfEven (x + 1 / 2) = ⌈x⌉₊ := by
  rw [Int.natCast_ceil_eq_ceil hx]
  by_cases hwhole : x = ⌈x⌉
  · have hnat : x = ⌈x⌉₊ := by
      rw [natCast_ceil_eq_intCast_ceil hx]
      exact hwhole
    have hmod : ⌈x⌉ % 2 = 0 := by
      have hmodNat := heven _ hnat
      rw [← Int.natCast_ceil_eq_ceil hx]
      omega
    have htie := roundHalfEven_add_half ⌈x⌉
    rwa [if_pos hmod, ← hwhole] at htie
  · exact roundHalfEven_add_half_of_ne hwhole

/-- Where the rank is not an odd whole number, the percentile is the nearest rank. -/
theorem percentile_of_not_odd (hne : values ≠ []) (hpos : 0 < q) (hle : q ≤ 1)
    (heven : ∀ k : Nat, q * values.length = k → k % 2 = 0) :
    values[⌈q * values.length⌉₊ - 1]? = some (percentile values q) := by
  obtain ⟨hone, hlen⟩ := ceil_rank_mem hne hpos hle
  have hround := round_rank (x := q * values.length) (by positivity) heven
  have hindex : (max 1 (min (values.length : Int) ⌈q * values.length⌉₊) - 1).toNat
      = ⌈q * values.length⌉₊ - 1 := by omega
  rw [percentile_eq hne, hround, hindex, List.getD_eq_getElem?_getD,
    List.getElem?_eq_getElem (by omega), Option.getD_some]

/-- An odd rank takes the element after it, if there is one. -/
theorem percentile_of_odd {k : Nat} (hne : values ≠ []) (hodd : k % 2 = 1)
    (hrank : q * values.length = k) (hk : k ≤ values.length) :
    values[min k (values.length - 1)]? = some (percentile values q) := by
  have hlen : 0 < values.length := List.length_pos_iff.2 hne
  have hround : roundHalfEven (q * values.length + 1 / 2) = k + 1 := by
    have htie := roundHalfEven_add_half k
    rw [if_neg (by omega)] at htie
    rw [hrank]
    exact_mod_cast htie
  have hindex : (max 1 (min (values.length : Int) (k + 1)) - 1).toNat
      = min k (values.length - 1) := by omega
  rw [percentile_eq hne, hround, hindex, List.getD_eq_getElem?_getD,
    List.getElem?_eq_getElem (by omega), Option.getD_some]

/-- **When the percentile is the nearest rank**: always but at an odd whole rank whose element the
    next one differs from. -/
theorem percentile_nearestRank_iff (hsorted : values.Pairwise (· ≤ ·)) (hne : values ≠ [])
    (hpos : 0 < q) (hle : q ≤ 1) :
    IsNearestRank values q (percentile values q) ↔ ¬ OddRank values q := by
  obtain ⟨hone, hlen⟩ := ceil_rank_mem hne hpos hle
  rw [isNearestRank_iff hsorted hne hpos hle]
  by_cases hodd : ∃ k : Nat, k % 2 = 1 ∧ q * values.length = k
  · obtain ⟨k, hk, hrank⟩ := hodd
    have hceil : ⌈q * values.length⌉₊ = k := by rw [hrank, Nat.ceil_natCast]
    rw [hceil] at hone hlen ⊢
    have hnext := percentile_of_odd hne hk hrank hlen
    rcases Nat.lt_or_ge k values.length with hlt | hge
    · rw [Nat.min_eq_left (by omega)] at hnext
      rw [← hnext]
      constructor
      · rintro heq ⟨m, -, hm, -, hdiff⟩
        obtain rfl : k = m := by exact_mod_cast hrank.symm.trans hm
        exact hdiff heq
      · intro hnot
        by_contra hdiff
        exact hnot ⟨k, hk, hrank, hlt, hdiff⟩
    -- the last rank has no next element
    · obtain rfl : k = values.length := le_antisymm hlen hge
      rw [Nat.min_eq_right (by omega)] at hnext
      refine iff_of_true hnext ?_
      rintro ⟨m, -, hm, hlt, -⟩
      have hcast : values.length = m := by exact_mod_cast hrank.symm.trans hm
      omega
  · refine iff_of_true (percentile_of_not_odd hne hpos hle fun k hk => ?_) ?_
    · by_contra hne'
      exact hodd ⟨k, by omega, hk⟩
    · rintro ⟨k, hk, hrank, -⟩
      exact hodd ⟨k, hk, hrank⟩

/-- The 99th percentile of three latencies. -/
theorem percentile_nearestRank_three :
    ([1, 2, 3] : List ℚ).Pairwise (· ≤ ·) ∧
      IsNearestRank [1, 2, 3] (99 / 100) (percentile [1, 2, 3] (99 / 100)) := by
  have hsorted : ([1, 2, 3] : List ℚ).Pairwise (· ≤ ·) := by norm_num
  refine ⟨hsorted,
    (percentile_nearestRank_iff hsorted (by simp) (by norm_num) (by norm_num)).2 ?_⟩
  rintro ⟨k, -, hrank, -⟩
  have hscaled : (297 : ℚ) = 100 * k := by
    have hlen : (([1, 2, 3] : List ℚ).length : ℚ) = 3 := rfl
    rw [hlen] at hrank
    linarith
  have hint : 297 = 100 * k := by exact_mod_cast hscaled
  omega

/-- The median of two latencies is the greater one. -/
theorem not_percentile_nearestRank_two :
    ¬ ∀ (values : List ℚ) (q : ℚ), values.Pairwise (· ≤ ·) → values ≠ [] → 0 < q → q ≤ 1 →
      IsNearestRank values q (percentile values q) := by
  intro hall
  have hsorted : ([1, 2] : List ℚ).Pairwise (· ≤ ·) := by simp
  have hrank := hall [1, 2] (1 / 2) hsorted (by simp) (by norm_num) (by norm_num)
  refine (percentile_nearestRank_iff hsorted (by simp) (by norm_num) (by norm_num)).1 hrank ?_
  exact ⟨1, by decide, by norm_num, by decide, by simp⟩

end AnalyticsTesting.Generator
