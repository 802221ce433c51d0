import Mathlib.Data.List.Pairwise
import Mathlib.Order.Bounds.Basic

set_option autoImplicit false

/-! # Nearest ranks

The element of rank `k` of a sorted list is the least one with at least `k` elements up to it
(`isLeast_getElem`). -/

namespace NearestRank

variable {α : Type*} [LinearOrder α]

/-- How many elements are at most `v`. -/
def countUpTo (xs : List α) (v : α) : Nat := xs.countP fun x => decide (x ≤ v)

/-- **The element of rank `i + 1`** is the least with at least `i + 1` elements up to it. -/
theorem isLeast_getElem {xs : List α} (hsorted : xs.Pairwise (· ≤ ·)) {i : Nat}
    (hi : i < xs.length) : IsLeast {v | v ∈ xs ∧ i + 1 ≤ countUpTo xs v} xs[i] := by
  have hget := List.pairwise_iff_getElem.1 hsorted
  refine ⟨⟨List.getElem_mem hi, ?_⟩, ?_⟩
  · have hall : (xs.take (i + 1)).countP (fun x => decide (x ≤ xs[i])) = i + 1 := by
      rw [List.countP_eq_length.2, List.length_take, Nat.min_eq_left hi]
      intro x hx
      obtain ⟨j, hj, rfl⟩ := List.mem_take_iff_getElem.1 hx
      rcases Nat.lt_or_ge j i with hlt | hge
      · exact decide_eq_true (hget j i (by omega) hi hlt)
      · obtain rfl : j = i := by omega
        exact decide_eq_true le_rfl
    exact hall.ge.trans (List.take_sublist (i + 1) xs).countP_le
  · rintro v ⟨-, hcount⟩
    by_contra hlt
    rw [not_le] at hlt
    -- everything from position `i` on is above `v`
    have hnone : (xs.drop i).countP (fun x => decide (x ≤ v)) = 0 := by
      rw [List.countP_eq_zero]
      intro x hx
      obtain ⟨j, hj, rfl⟩ := List.mem_drop_iff_getElem.1 hx
      have hle : xs[i] ≤ xs[i + j] := by
        rcases Nat.eq_zero_or_pos j with rfl | hpos
        · exact le_rfl
        · exact hget i (i + j) hi _ (by omega)
      simpa using lt_of_lt_of_le hlt hle
    rw [countUpTo, ← List.take_append_drop i xs, List.countP_append, hnone, Nat.add_zero] at hcount
    have htake := (List.countP_le_length (p := fun x => decide (x ≤ v)) (l := xs.take i)).trans
      (List.length_take_le i xs)
    omega

end NearestRank
