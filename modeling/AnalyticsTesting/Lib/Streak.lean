import Mathlib.Data.List.Infix
import Mathlib.Order.Basic
import Mathlib.Order.Lattice

set_option autoImplicit false

/-! # Streaks

A counter that is reset by every success and moved on by every failure (`Streak.count`), on a list
of outcomes (`true` is a success). It is the length of the streak of failures the list ends with
(`replicate_suffix_iff`), and no value it takes on the way (`peak`) is larger than the longest
streak in the list.

The outcomes may be counted in another order than they happened in, as long as none overtakes one of
the other kind: `count_advance` and `peak_advance`. -/

namespace Streak

/-- One outcome. -/
def tick (c : Nat) (b : Bool) : Nat := if b then 0 else c + 1

/-- The counter after a list of outcomes. -/
def count (c : Nat) (l : List Bool) : Nat := l.foldl tick c

/-- The largest value of the counter on the way. -/
def peak (c : Nat) : List Bool → Nat
  | [] => c
  | b :: l => max c (peak (tick c b) l)

@[simp] theorem count_nil (c : Nat) : count c [] = c := rfl

@[simp] theorem count_cons (c : Nat) (b : Bool) (l : List Bool) :
    count c (b :: l) = count (tick c b) l := rfl

theorem count_concat (c : Nat) (l : List Bool) (b : Bool) :
    count c (l ++ [b]) = tick (count c l) b := by
  simp [count]

theorem le_peak (c : Nat) (l : List Bool) : c ≤ peak c l := by
  cases l with
  | nil => exact le_rfl
  | cons b l => exact le_max_left _ _

theorem peak_concat (l : List Bool) (b : Bool) :
    ∀ c, peak c (l ++ [b]) = max (peak c l) (count c (l ++ [b])) := by
  induction l with
  | nil => exact fun c => rfl
  | cons a l ih =>
      intro c
      rw [List.cons_append, peak, ih, count_cons, peak, max_assoc]

/-! ## The last streak -/

theorem replicate_suffix (l : List Bool) : List.replicate (count 0 l) false <:+ l := by
  induction l using List.reverseRecOn with
  | nil => exact List.suffix_rfl
  | append_singleton l b ih =>
      rw [count_concat]
      cases b with
      | true => exact List.nil_suffix
      | false =>
          obtain ⟨before, hbefore⟩ := ih
          refine ⟨before, ?_⟩
          show before ++ List.replicate (count 0 l + 1) false = l ++ [false]
          rw [List.replicate_succ', ← List.append_assoc, hbefore]

theorem count_replicate (n : Nat) : ∀ c, count c (List.replicate n false) = c + n := by
  induction n with
  | zero => exact fun c => rfl
  | succ n ih =>
      intro c
      rw [List.replicate_succ, count_cons, ih]
      show c + 1 + n = c + (n + 1)
      omega

/-- A list ends with `n` failures exactly if the counter has reached `n`. -/
theorem replicate_suffix_iff {l : List Bool} {n : Nat} :
    List.replicate n false <:+ l ↔ n ≤ count 0 l := by
  constructor
  · rintro ⟨before, rfl⟩
    rw [count, List.foldl_append]
    show n ≤ count (before.foldl tick 0) (List.replicate n false)
    rw [count_replicate]
    exact Nat.le_add_left _ _
  · intro h
    refine List.IsSuffix.trans ?_ (replicate_suffix l)
    obtain ⟨k, hk⟩ := Nat.exists_eq_add_of_le h
    rw [hk, Nat.add_comm, List.replicate_add]
    exact List.suffix_append _ _

theorem replicate_infix_of_le {l : List Bool} {m n : Nat} (h : m ≤ n)
    (hsub : List.replicate n false <:+: l) : List.replicate m false <:+: l := by
  refine List.IsInfix.trans ?_ hsub
  obtain ⟨k, rfl⟩ := Nat.exists_eq_add_of_le h
  rw [List.replicate_add]
  exact (List.prefix_append _ _).isInfix

/-! ## Counting out of order -/

/-- An outcome may be counted before others of its kind. -/
theorem count_advance {earlier : List Bool} {b : Bool} (rest : List Bool)
    (h : ∀ y ∈ earlier, y = b) :
    ∀ c, count (tick c b) (earlier ++ rest) = count c (earlier ++ b :: rest) := by
  induction earlier with
  | nil => exact fun c => rfl
  | cons y earlier ih =>
      intro c
      obtain rfl : y = b := h y (List.mem_cons_self ..)
      exact ih (fun z hz => h z (List.mem_cons_of_mem _ hz)) (tick c y)

theorem peak_advance {earlier : List Bool} {b : Bool} (rest : List Bool)
    (h : ∀ y ∈ earlier, y = b) :
    ∀ c, peak (tick c b) (earlier ++ rest) ≤ peak c (earlier ++ b :: rest) := by
  induction earlier with
  | nil => exact fun c => le_max_right _ _
  | cons y earlier ih =>
      intro c
      obtain rfl : y = b := h y (List.mem_cons_self ..)
      have hrest := ih (fun z hz => h z (List.mem_cons_of_mem _ hz)) (tick c y)
      refine le_trans ?_ (le_max_right _ _)
      exact max_le (le_peak _ _) hrest

end Streak
