import Mathlib.Data.Finset.Card
import Mathlib.Data.List.ReduceOption
import Mathlib.Algebra.BigOperators.Group.List.Lemmas
import Mathlib.Algebra.Ring.Int.Defs
import Mathlib.Algebra.GroupWithZero.Nat

set_option autoImplicit false

/-! # Aggregates over bags of rows

What a query computes from the column of a bag of rows: how many values differ (`countDistinct`,
which skips NULLs), and which keys occur more than once (`repeated`, the groups that
`HAVING count(*) > 1` keeps). A bag is a list here; none of the aggregates depends on its order.

`length_dedup_add_excess` balances rows, keys and repetitions, `card_missing_add_countDistinct` the
values of a column with the values expected there, and `mem_of_card` is the counting argument that
turns an aggregate comparison into one about single values. -/

namespace Bag

variable {α : Type*} [DecidableEq α]

/-- How many values a column has, NULLs left out. -/
def countDistinct (column : List (Option α)) : Nat := column.reduceOption.dedup.length

/-- The values of a column. -/
def values (column : List (Option α)) : Finset α := column.reduceOption.toFinset

/-- The keys that occur more than once, and how often. -/
def repeated (keys : List α) : List (α × Nat) :=
  (keys.dedup.map fun k => (k, keys.count k)).filter fun group => 1 < group.2

/-- The rows beyond the first one of their key. -/
def excess (keys : List α) : Nat := ((repeated keys).map fun group => group.2 - 1).sum

/-! ## Repeated keys -/

theorem mem_repeated {keys : List α} {k : α} {c : Nat} :
    (k, c) ∈ repeated keys ↔ c = keys.count k ∧ 1 < c := by
  simp only [repeated, List.mem_filter, List.mem_map, List.mem_dedup, Prod.mk.injEq,
    decide_eq_true_eq]
  constructor
  · rintro ⟨⟨a, -, rfl, rfl⟩, hlt⟩
    exact ⟨rfl, hlt⟩
  · rintro ⟨rfl, hlt⟩
    exact ⟨⟨k, List.count_pos_iff.1 (by omega), rfl, rfl⟩, hlt⟩

/-- **No key is repeated exactly if the keys are pairwise distinct.** -/
theorem repeated_eq_nil_iff {keys : List α} : repeated keys = [] ↔ keys.Nodup := by
  rw [List.nodup_iff_count_le_one, List.eq_nil_iff_forall_not_mem]
  constructor
  · intro h k
    by_contra hlt
    exact h (k, keys.count k) (mem_repeated.2 ⟨rfl, by omega⟩)
  · rintro h ⟨k, c⟩ hmem
    obtain ⟨rfl, hlt⟩ := mem_repeated.1 hmem
    exact absurd (h k) (by omega)

/-- Groups of one row have no excess, so all groups may be summed. -/
theorem excess_eq_sum (keys : List α) :
    excess keys = (keys.dedup.map fun k => keys.count k - 1).sum := by
  unfold excess repeated
  generalize keys.dedup = groups
  induction groups with
  | nil => rfl
  | cons k rest ih =>
      simp only [List.map_cons, List.filter_cons, List.sum_cons, ← ih]
      by_cases hlt : 1 < keys.count k
      · simp [hlt]
      · have hzero : keys.count k - 1 = 0 := by omega
        simp [hlt, hzero]

/-- **Every row is the first of its key or in excess.** -/
theorem length_dedup_add_excess (keys : List α) :
    keys.dedup.length + excess keys = keys.length := by
  rw [excess_eq_sum, ← List.sum_map_count_dedup_eq_length keys]
  have hpos : ∀ k ∈ keys.dedup, 1 ≤ keys.count k := by
    intro k hk
    exact List.count_pos_iff.2 (List.mem_dedup.1 hk)
  revert hpos
  generalize keys.dedup = groups
  intro hpos
  induction groups with
  | nil => rfl
  | cons k rest ih =>
      have hk := hpos k (List.mem_cons_self ..)
      have hrest := ih fun k' hk' => hpos k' (List.mem_cons_of_mem _ hk')
      simp only [List.map_cons, List.sum_cons, List.length_cons]
      omega

/-! ## Distinct values -/

theorem countDistinct_le (column : List (Option α)) : countDistinct column ≤ column.length :=
  (List.dedup_sublist _).length_le.trans (List.reduceOption_length_le column)

omit [DecidableEq α] in
theorem map_some_reduceOption {column : List (Option α)} (h : ∀ x ∈ column, x ≠ none) :
    column.reduceOption.map some = column := by
  induction column with
  | nil => rfl
  | cons x rest ih =>
      obtain ⟨a, rfl⟩ := Option.ne_none_iff_exists'.1 (h x (List.mem_cons_self ..))
      rw [List.reduceOption_cons_of_some, List.map_cons,
        ih fun y hy => h y (List.mem_cons_of_mem _ hy)]

omit [DecidableEq α] in
/-- Without NULLs, values repeat where rows do. -/
theorem nodup_reduceOption_iff {column : List (Option α)} (h : ∀ x ∈ column, x ≠ none) :
    column.reduceOption.Nodup ↔ column.Nodup := by
  conv_rhs => rw [← map_some_reduceOption h]
  exact (List.nodup_map_iff (Option.some_injective α)).symm

/-- **There are as many values as rows exactly if no row is NULL and no value is repeated.** -/
theorem countDistinct_eq_length_iff {column : List (Option α)} :
    countDistinct column = column.length ↔ (∀ x ∈ column, x ≠ none) ∧ column.Nodup := by
  have hdedup := (List.dedup_sublist column.reduceOption).length_le
  have hnull := List.reduceOption_length_le column
  have hsome : column.reduceOption.length = column.length ↔ ∀ x ∈ column, x ≠ none := by
    rw [List.reduceOption_length_eq_iff]
    simp only [Option.isSome_iff_ne_none]
  have hnodup : column.reduceOption.dedup.length = column.reduceOption.length ↔
      column.reduceOption.Nodup := by
    constructor
    · intro h
      rw [← (List.dedup_sublist _).eq_of_length h]
      exact List.nodup_dedup _
    · intro h
      rw [h.dedup]
  unfold countDistinct
  constructor
  · intro h
    have hnone := hsome.1 (by omega)
    exact ⟨hnone, (nodup_reduceOption_iff hnone).1 (hnodup.1 (by omega))⟩
  · rintro ⟨hnone, hcolumn⟩
    have hlen := hnodup.2 ((nodup_reduceOption_iff hnone).2 hcolumn)
    have hall := hsome.2 hnone
    omega

/-! ## Counting -/

theorem card_values (column : List (Option α)) :
    (values column).card = countDistinct column := List.card_toFinset _

/-- **The values that are missing and those that are there make up the expected ones and the stray
ones.** -/
theorem card_missing_add_countDistinct (expected : Finset α) (column : List (Option α)) :
    (expected \ values column).card + countDistinct column
      = expected.card + (values column \ expected).card := by
  rw [← card_values, Finset.card_sdiff_add_card, Finset.union_comm, ← Finset.card_sdiff_add_card,
    Nat.add_comm]

/-- Distinct values that cover a set of their number are in it. -/
theorem mem_of_card {l : List α} {s : Finset α} (hnodup : l.Nodup) (hcard : l.length = s.card)
    (hcover : ∀ a ∈ s, a ∈ l) : ∀ a ∈ l, a ∈ s := by
  have hle : s ⊆ l.toFinset := fun a ha => List.mem_toFinset.2 (hcover a ha)
  have heq : s = l.toFinset := by
    apply Finset.eq_of_subset_of_card_le hle
    rw [List.toFinset_card_of_nodup hnodup, hcard]
  intro a ha
  rw [heq]
  exact List.mem_toFinset.2 ha

end Bag
