import Mathlib.Data.Int.CardIntervalMod

set_option autoImplicit false

/-! # Round robin

The first `n` items dealt to `c` receivers in turn. `mem_deal_iff`: who gets any; `count_deal`: how
many each gets, which differs by one at most (`count_deal_le`). `flatMap_range_range`: a table of
rows of equal length, read row by row, is one enumeration. -/

namespace RoundRobin

/-- The receivers of the items `0, …, n - 1`. -/
def deal (n c : Nat) : List Nat := (List.range n).map (· % c)

variable {n c : Nat}

theorem mem_deal_iff (hc : 0 < c) {p : Nat} : p ∈ deal n c ↔ p < min n c := by
  simp only [deal, List.mem_map, List.mem_range, lt_min_iff]
  constructor
  · rintro ⟨i, hi, rfl⟩
    exact ⟨lt_of_le_of_lt (Nat.mod_le i c) hi, Nat.mod_lt i hc⟩
  · rintro ⟨hn, hp⟩
    exact ⟨p, hn, Nat.mod_eq_of_lt hp⟩

/-- How many items a receiver gets. -/
theorem count_deal (hc : 0 < c) {p : Nat} (hp : p < c) :
    (deal n c).count p = n / c + if p < n % c then 1 else 0 := by
  have hcount : (deal n c).count p = n.count fun i => i ≡ p [MOD c] := by
    induction n with
    | zero => rfl
    | succ n ih =>
        have hlast : n ≡ p [MOD c] ↔ n % c = p := by
          rw [Nat.ModEq, Nat.mod_eq_of_lt hp]
        rw [Nat.count_succ, ← ih]
        simp [deal, List.range_succ, List.count_singleton, hlast]
  rw [hcount, Nat.count_modEq_card n hc p, Nat.mod_eq_of_lt hp]

/-- The shares differ by one at most. -/
theorem count_deal_le (hc : 0 < c) {p q : Nat} (hp : p < c) (hq : q < c) :
    (deal n c).count p ≤ (deal n c).count q + 1 := by
  rw [count_deal hc hp, count_deal hc hq]
  split <;> omega

/-- Rows of `v` numbers each, one after another. -/
theorem flatMap_range_range (w v : Nat) :
    (List.range w).flatMap (fun i => (List.range v).map fun j => i * v + j)
      = List.range (w * v) := by
  induction w with
  | zero => simp
  | succ w ih =>
      rw [List.range_succ, List.flatMap_append, ih, List.flatMap_singleton, Nat.succ_mul,
        List.range_add]

end RoundRobin
