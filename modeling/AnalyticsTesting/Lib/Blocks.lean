import Mathlib.Data.List.Dedup
import Mathlib.Order.Interval.Finset.Nat
import Mathlib.Tactic.Ring

set_option autoImplicit false

/-! # Consecutive numbers cut into blocks

The numbers from `s` on, `n` of them, each labelled with its quotient by `d`. The labels that occur
are an interval (`mem_labels_iff`), so there are as many blocks as `length_dedup_labels` says, and
`count_labels` says how long each block is: all have `d` numbers but the two at the ends. -/

namespace Blocks

/-- The labels of the numbers `s, …, s + n - 1`. -/
def labels (s n d : Nat) : List Nat := (List.range' s n).map (· / d)

variable {s n d : Nat}

theorem mem_labels_iff (hn : 0 < n) (hd : 0 < d) {p : Nat} :
    p ∈ labels s n d ↔ s / d ≤ p ∧ p ≤ (s + n - 1) / d := by
  simp only [labels, List.mem_map, List.mem_range'_1]
  constructor
  · rintro ⟨i, ⟨hlo, hhi⟩, rfl⟩
    exact ⟨Nat.div_le_div_right hlo, Nat.div_le_div_right (by omega)⟩
  · rintro ⟨hlo, hhi⟩
    have hstart : s < p * d + d := by
      rw [← Nat.succ_mul]
      exact (Nat.div_lt_iff_lt_mul hd).1 (Nat.lt_succ_of_le hlo)
    have hend : p * d ≤ s + n - 1 := (Nat.le_div_iff_mul_le hd).1 hhi
    -- the first number of the block that is not before `s`
    refine ⟨max s (p * d), ⟨le_max_left _ _, by omega⟩, ?_⟩
    rw [Nat.div_eq_iff hd]
    omega

/-- The number of blocks. -/
theorem length_dedup_labels (hn : 0 < n) (hd : 0 < d) :
    (labels s n d).dedup.length = (s + n - 1) / d + 1 - s / d := by
  have hset : (labels s n d).toFinset = Finset.Icc (s / d) ((s + n - 1) / d) := by
    ext p
    rw [List.mem_toFinset, Finset.mem_Icc, mem_labels_iff hn hd]
  rw [← List.card_toFinset, hset, Nat.card_Icc]

/-- The length of a block: it has `d` numbers, less those before `s` and those from `s + n` on. -/
theorem count_labels (hd : 0 < d) (p : Nat) :
    (labels s n d).count p = min (s + n) (p * d + d) - max s (p * d) := by
  induction n with
  | zero => simp [labels]
  | succ n ih =>
      have hlast : (s + n) / d = p ↔ p * d ≤ s + n ∧ s + n < p * d + d := by
        rw [Nat.div_eq_iff hd]
        omega
      have hstep : (labels s (n + 1) d).count p
          = (labels s n d).count p + if (s + n) / d = p then 1 else 0 := by
        simp [labels, List.range'_1_concat, List.count_singleton]
      rw [hstep, ih]
      by_cases h : (s + n) / d = p
      · rw [if_pos h]
        have hin := hlast.1 h
        omega
      · rw [if_neg h]
        have hout : ¬ (p * d ≤ s + n ∧ s + n < p * d + d) := fun hin => h (hlast.2 hin)
        omega

end Blocks
