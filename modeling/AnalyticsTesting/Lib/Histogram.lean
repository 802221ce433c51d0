import Mathlib.Algebra.BigOperators.Group.List.Basic
import Mathlib.Algebra.GroupWithZero.Nat
import Mathlib.Algebra.Order.Ring.Rat
import Mathlib.Data.List.Induction
import Mathlib.Data.Rat.Defs

set_option autoImplicit false

/-! # Histograms with cumulative buckets

An observation is counted in the first bucket whose upper bound it does not exceed, or in the last
one, which has no bound. What is exposed for a bucket is the count up to it. For increasing bounds
that is the number of observations that do not exceed its bound (`cumulative_observeAll`), so the
buckets lose nothing that the bounds can tell apart. -/

/-- A histogram over `bounds`: one bucket for each bound and one for the rest. -/
structure Histogram (bounds : List ℚ) where
  buckets : List Nat
  sum : ℚ
  length_buckets : buckets.length = bounds.length + 1
  deriving DecidableEq

namespace Histogram

variable {bounds : List ℚ}

@[ext] theorem ext {h h' : Histogram bounds} (hbuckets : h.buckets = h'.buckets)
    (hsum : h.sum = h'.sum) : h = h' := by
  cases h
  cases h'
  subst hbuckets hsum
  rfl

/-- No observation yet. -/
def empty (bounds : List ℚ) : Histogram bounds where
  buckets := List.replicate (bounds.length + 1) 0
  sum := 0
  length_buckets := List.length_replicate

/-- The bucket an observation is counted in. -/
def bucketOf (bounds : List ℚ) (x : ℚ) : Nat := bounds.findIdx fun b => x ≤ b

def observe (h : Histogram bounds) (x : ℚ) : Histogram bounds where
  buckets := h.buckets.modify (bucketOf bounds x) (· + 1)
  sum := h.sum + x
  length_buckets := by rw [List.length_modify, h.length_buckets]

/-- What is exposed for the `k`-th bucket. -/
def cumulative (h : Histogram bounds) (k : Nat) : Nat := (h.buckets.take (k + 1)).sum

/-- What is exposed as the number of observations. -/
def count (h : Histogram bounds) : Nat := h.cumulative bounds.length

/-- The observation belongs below the bound of the `k`-th bucket. -/
def Below (bounds : List ℚ) (k : Nat) (x : ℚ) : Prop := ∀ b ∈ bounds[k]?, x ≤ b

instance (k : Nat) (x : ℚ) : Decidable (Below bounds k x) :=
  inferInstanceAs (Decidable (∀ b ∈ bounds[k]?, x ≤ b))

/-- Two observations may be made in either order. -/
theorem observe_comm (h : Histogram bounds) (x y : ℚ) :
    (h.observe x).observe y = (h.observe y).observe x := by
  refine ext ?_ (add_right_comm _ _ _)
  refine List.ext_getElem? fun i => ?_
  simp only [observe, List.getElem?_modify]
  cases h.buckets[i]? with
  | none => rfl
  | some n =>
      simp only [Option.map_eq_map, Option.map_some]
      split_ifs <;> rfl

theorem sum_take_modify (l : List Nat) :
    ∀ i k : Nat, i < l.length →
      ((l.modify i (· + 1)).take (k + 1)).sum
        = (l.take (k + 1)).sum + if i ≤ k then 1 else 0 := by
  induction l with
  | nil => intro i k hi; simp at hi
  | cons n l ih =>
      intro i k hi
      cases i with
      | zero =>
          simp only [List.modify_zero_cons, List.take_succ_cons, List.sum_cons, Nat.zero_le,
            if_true]
          omega
      | succ i =>
          cases k with
          | zero => simp
          | succ k =>
              have hrest := ih i k (by simpa using hi)
              simp only [List.modify_succ_cons, List.take_succ_cons, List.sum_cons] at hrest ⊢
              simp only [Nat.add_le_add_iff_right]
              omega

theorem bucketOf_le_iff (hsorted : bounds.Pairwise (· < ·)) (k : Nat) (hk : k ≤ bounds.length)
    (x : ℚ) : bucketOf bounds x ≤ k ↔ Below bounds k x := by
  unfold bucketOf Below
  by_cases hlast : k = bounds.length
  · subst hlast
    simp [List.findIdx_le_length]
  · have hlt : k < bounds.length := by omega
    rw [List.getElem?_eq_getElem hlt]
    constructor
    · intro hle b hb
      obtain rfl : bounds[k] = b := by simpa using hb
      have hfirst : bounds.findIdx (fun b => decide (x ≤ b)) < bounds.length := by omega
      have hx : x ≤ bounds[bounds.findIdx fun b => decide (x ≤ b)] := by
        simpa using List.findIdx_getElem (w := hfirst)
      rcases Nat.lt_or_eq_of_le hle with hbefore | heq
      · exact hx.trans (List.pairwise_iff_getElem.1 hsorted _ _ hfirst hlt hbefore).le
      · simpa only [heq] using hx
    · intro hb
      by_contra hgt
      have hnot := List.not_of_lt_findIdx (not_le.1 hgt)
      exact absurd (hb _ rfl) (by simpa using hnot)

/-- **One more observation.** Exactly the buckets with a bound that the observation does not exceed
show one more. -/
theorem cumulative_observe (hsorted : bounds.Pairwise (· < ·)) (h : Histogram bounds) (x : ℚ)
    {k : Nat} (hk : k ≤ bounds.length) :
    (h.observe x).cumulative k = h.cumulative k + if Below bounds k x then 1 else 0 := by
  have hbucket : bucketOf bounds x < h.buckets.length := by
    rw [h.length_buckets]
    exact Nat.lt_succ_of_le List.findIdx_le_length
  have hmodify := sum_take_modify h.buckets (bucketOf bounds x) k hbucket
  unfold cumulative observe
  rw [hmodify]
  simp only [bucketOf_le_iff hsorted k hk]

/-- All observations, in order. -/
def observeAll (xs : List ℚ) : Histogram bounds := xs.foldl observe (empty bounds)

@[simp] theorem observeAll_concat (xs : List ℚ) (x : ℚ) :
    (observeAll (xs ++ [x]) : Histogram bounds) = (observeAll xs).observe x := by
  simp [observeAll]

@[simp] theorem cumulative_empty (k : Nat) : (empty bounds).cumulative k = 0 := by
  simp [cumulative, empty, List.take_replicate]

/-- **What a histogram shows** of the observations made: how many of them lie below each bound, and
their sum. -/
theorem cumulative_observeAll (hsorted : bounds.Pairwise (· < ·)) (xs : List ℚ) {k : Nat}
    (hk : k ≤ bounds.length) :
    (observeAll xs : Histogram bounds).cumulative k = xs.countP (Below bounds k ·) := by
  induction xs using List.reverseRecOn with
  | nil => exact cumulative_empty k
  | append_singleton xs x ih =>
      rw [observeAll_concat, cumulative_observe hsorted _ _ hk, ih, List.countP_append]
      simp [List.countP_cons]

end Histogram
