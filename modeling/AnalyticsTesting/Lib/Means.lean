import AnalyticsTesting.Lib.LeastSquares
import Mathlib.Data.List.Infix

set_option autoImplicit false

/-! # Means of the two ends of a list

What a comparison of the beginning of a series with its end rests on. Where the elements come in
order, a condition on their order cuts off a prefix or a suffix (`filter_isPrefix`,
`filter_isSuffix`). Where they never fall, the mean of a prefix is at most the mean of a suffix,
also if the two overlap (`mean_prefix_le_mean_suffix`). -/

namespace Means

open LeastSquares (mean)

/-! ## Cutting off an end -/

section Cut

variable {α : Type*} {p : α → Bool} {l : List α}

theorem filter_isPrefix (h : l.Pairwise fun a b => p b = true → p a = true) : l.filter p <+: l := by
  induction l with
  | nil => exact List.prefix_rfl
  | cons a l ih =>
      obtain ⟨ha, hl⟩ := List.pairwise_cons.1 h
      cases hpa : p a with
      | true =>
          rw [List.filter_cons_of_pos hpa]
          exact List.cons_prefix_cons.2 ⟨rfl, ih hl⟩
      | false =>
          have hnone : l.filter p = [] := by
            refine List.filter_eq_nil_iff.2 fun b hb hpb => ?_
            rw [ha b hb hpb] at hpa
            cases hpa
          rw [List.filter_cons_of_neg (by simp [hpa]), hnone]
          exact List.nil_prefix

theorem filter_isSuffix (h : l.Pairwise fun a b => p a = true → p b = true) : l.filter p <:+ l := by
  induction l with
  | nil => exact List.suffix_rfl
  | cons a l ih =>
      obtain ⟨ha, hl⟩ := List.pairwise_cons.1 h
      cases hpa : p a with
      | true =>
          have hall : (a :: l).filter p = a :: l := by
            rw [List.filter_eq_self]
            intro b hb
            rcases List.mem_cons.1 hb with rfl | hb
            · exact hpa
            · exact ha b hb hpa
          rw [hall]
      | false =>
          rw [List.filter_cons_of_neg (by simp [hpa])]
          exact (ih hl).trans (List.suffix_cons a l)

end Cut

/-! ## Bounds on a mean -/

section Mean

variable {K : Type*} [Field K] [LinearOrder K] [IsStrictOrderedRing K] {xs ys : List K} {c : K}

theorem length_pos (hne : xs ≠ []) : (0 : K) < xs.length :=
  Nat.cast_pos.2 (List.length_pos_iff.2 hne)

theorem mean_le (hne : xs ≠ []) (h : ∀ x ∈ xs, x ≤ c) : mean xs ≤ c := by
  rw [mean, div_le_iff₀ (length_pos hne), mul_comm, ← nsmul_eq_mul]
  exact List.sum_le_card_nsmul xs c h

theorem le_mean (hne : xs ≠ []) (h : ∀ x ∈ xs, c ≤ x) : c ≤ mean xs := by
  rw [mean, le_div_iff₀ (length_pos hne), mul_comm, ← nsmul_eq_mul]
  exact List.card_nsmul_le_sum xs c h

/-- Something is at least as large as the mean. -/
theorem exists_mean_le (hne : xs ≠ []) : ∃ x ∈ xs, mean xs ≤ x := by
  refine List.exists_le_of_sum_le hne (fun _ => mean xs) (fun x => x) (le_of_eq ?_)
  rw [List.map_const', List.sum_replicate, nsmul_eq_mul, mean, List.map_id',
    mul_div_cancel₀ _ (length_pos hne).ne']

/-- Something is at most as large as the mean. -/
theorem exists_le_mean (hne : xs ≠ []) : ∃ x ∈ xs, x ≤ mean xs := by
  refine List.exists_le_of_sum_le hne (fun x => x) (fun _ => mean xs) (le_of_eq ?_)
  rw [List.map_const', List.sum_replicate, nsmul_eq_mul, mean, List.map_id',
    mul_div_cancel₀ _ (length_pos hne).ne']

/-- The mean of two lists together lies between their means. -/
theorem mean_append (hx : xs ≠ []) (hy : ys ≠ []) (h : mean xs ≤ mean ys) :
    mean xs ≤ mean (xs ++ ys) ∧ mean (xs ++ ys) ≤ mean ys := by
  have hxpos : (0 : K) < xs.length := length_pos hx
  have hypos : (0 : K) < ys.length := length_pos hy
  have hsum : mean (xs ++ ys) * (xs.length + ys.length)
      = mean xs * xs.length + mean ys * ys.length := by
    simp only [mean, List.sum_append, List.length_append, Nat.cast_add]
    rw [div_mul_cancel₀ _ (add_pos hxpos hypos).ne', div_mul_cancel₀ _ hxpos.ne',
      div_mul_cancel₀ _ hypos.ne']
  constructor
  · refine le_of_mul_le_mul_right ?_ (add_pos hxpos hypos)
    rw [hsum, mul_add]
    exact add_le_add_right (mul_le_mul_of_nonneg_right h hypos.le) _
  · refine le_of_mul_le_mul_right ?_ (add_pos hxpos hypos)
    rw [hsum, mul_add]
    exact add_le_add_left (mul_le_mul_of_nonneg_right h hxpos.le) _

/-! ## Lists that never fall -/

variable {l p s : List K}

theorem mean_le_mean_of_append (h : (xs ++ ys).Pairwise (· ≤ ·)) (hx : xs ≠ []) (hy : ys ≠ []) :
    mean xs ≤ mean ys :=
  mean_le hx fun _ ha => le_mean hy fun _ hb => (List.pairwise_append.1 h).2.2 _ ha _ hb

theorem mean_prefix_le (hl : l.Pairwise (· ≤ ·)) (hp : p <+: l) (hne : p ≠ []) :
    mean p ≤ mean l := by
  obtain ⟨rest, rfl⟩ := hp
  rcases eq_or_ne rest [] with rfl | hrest
  · rw [List.append_nil]
  · exact (mean_append hne hrest (mean_le_mean_of_append hl hne hrest)).1

theorem mean_le_suffix (hl : l.Pairwise (· ≤ ·)) (hs : s <:+ l) (hne : s ≠ []) :
    mean l ≤ mean s := by
  obtain ⟨rest, rfl⟩ := hs
  rcases eq_or_ne rest [] with rfl | hrest
  · rw [List.nil_append]
  · exact (mean_append hrest hne (mean_le_mean_of_append hl hrest hne)).2

/-- The mean of a beginning is at most that of an end. -/
theorem mean_prefix_le_mean_suffix (hl : l.Pairwise (· ≤ ·)) (hp : p <+: l) (hs : s <:+ l)
    (hpne : p ≠ []) (hsne : s ≠ []) : mean p ≤ mean s :=
  (mean_prefix_le hl hp hpne).trans (mean_le_suffix hl hs hsne)

end Mean

end Means
