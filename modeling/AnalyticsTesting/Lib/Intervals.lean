import Mathlib.Data.List.Chain
import Mathlib.Data.List.Pairwise
import Mathlib.Data.Prod.Lex
import Mathlib.Order.Interval.Set.Basic

set_option autoImplicit false

/-! # Lists of closed intervals

An interval is a pair of ends, as an entry of a list that may hold it more than once. Among
intervals sorted by their left ends, comparing neighbours is enough to find two that meet
(`exists_meets_iff_neighbours`): where no neighbour reaches the next left end, nothing reaches a
later one. -/

namespace Intervals

variable {α : Type*} [LinearOrder α]

/-- The two intervals have a point in common. -/
def Meets (a b : α × α) : Prop := ∃ x, x ∈ Set.Icc a.1 a.2 ∧ x ∈ Set.Icc b.1 b.2

/-- The first interval ends before the second begins. -/
def Before (a b : α × α) : Prop := a.2 < b.1

theorem Meets.symm {a b : α × α} (h : Meets a b) : Meets b a :=
  let ⟨x, hx, hx'⟩ := h
  ⟨x, hx', hx⟩

theorem meets_iff {a b : α × α} (ha : a.1 ≤ a.2) (hb : b.1 ≤ b.2) :
    Meets a b ↔ a.1 ≤ b.2 ∧ b.1 ≤ a.2 := by
  constructor
  · rintro ⟨x, ⟨hax, hxa⟩, hbx, hxb⟩
    exact ⟨hax.trans hxb, hbx.trans hxa⟩
  · rintro ⟨hab, hba⟩
    -- the greater of the left ends is in both
    exact ⟨max a.1 b.1, ⟨le_max_left _ _, max_le ha hba⟩, le_max_right _ _, max_le hab hb⟩

/-- With the left ends in order, two intervals are apart exactly if the first ends in time. -/
theorem not_meets_iff_before {a b : α × α} (ha : a.1 ≤ a.2) (hb : b.1 ≤ b.2) (h : a.1 ≤ b.1) :
    ¬ Meets a b ↔ Before a b := by
  rw [meets_iff ha hb, Before]
  constructor
  · intro hnot
    by_contra hlt
    exact hnot ⟨h.trans hb, not_lt.1 hlt⟩
  · rintro hlt ⟨-, hle⟩
    exact absurd hle (not_le.2 hlt)

/-- Where every left end is at or after the one before it, neighbours decide about all pairs. -/
theorem isChain_before_iff_pairwise {l : List (α × α)} (hl : l.Pairwise fun a b => a.1 ≤ b.1) :
    l.IsChain Before ↔ l.Pairwise Before := by
  refine ⟨fun hchain => ?_, List.Pairwise.isChain⟩
  induction l with
  | nil => exact .nil
  | cons a l ih =>
      rw [List.pairwise_cons] at hl ⊢
      refine ⟨?_, ih hl.2 hchain.tail⟩
      cases l with
      | nil => simp
      | cons b rest =>
          have hab : Before a b := (List.isChain_cons_cons.1 hchain).1
          intro c hc
          rcases List.mem_cons.1 hc with rfl | hc
          · exact hab
          -- `c` begins no earlier than the neighbour `b`
          · exact lt_of_lt_of_le hab ((List.pairwise_cons.1 hl.2).1 c hc)

/-- The neighbours of a list, compared one by one. -/
theorem isChain_iff_zip_tail {β : Type*} {R : β → β → Prop} {l : List β} :
    l.IsChain R ↔ ∀ p ∈ l.zip l.tail, R p.1 p.2 := by
  induction l with
  | nil => simp
  | cons a l ih =>
      cases l with
      | nil => simp
      | cons b rest => simpa [List.isChain_cons_cons] using fun _ => ih

/-- Sorted by their left ends, the intervals are pairwise apart exactly if each ends before all
    later ones begin. -/
theorem pairwise_not_meets_iff {l : List (α × α)} (hwf : ∀ r ∈ l, r.1 ≤ r.2)
    (hl : l.Pairwise fun a b => a.1 ≤ b.1) :
    (l.Pairwise fun a b => ¬ Meets a b) ↔ l.Pairwise Before := by
  constructor
  · intro hapart
    exact (hl.and hapart).imp_of_mem fun ha hb h =>
      (not_meets_iff_before (hwf _ ha) (hwf _ hb) h.1).1 h.2
  · intro hbefore
    exact (hl.and hbefore).imp_of_mem fun ha hb h =>
      (not_meets_iff_before (hwf _ ha) (hwf _ hb) h.1).2 h.2

/-- **Neighbours are enough**: two of the intervals meet exactly if, among the intervals sorted
    lexicographically, one begins before its left neighbour ends. -/
theorem exists_neighbours_iff {l sorted : List (α × α)} (hwf : ∀ r ∈ l, r.1 ≤ r.2)
    (hperm : sorted.Perm l) (hsorted : sorted.Pairwise fun a b => toLex a ≤ toLex b) :
    (∃ p ∈ sorted.zip sorted.tail, p.2.1 ≤ p.1.2) ↔ ¬ l.Pairwise fun a b => ¬ Meets a b := by
  have hleft : sorted.Pairwise fun a b => a.1 ≤ b.1 :=
    hsorted.imp fun h => Prod.Lex.monotone_fst _ _ h
  have hwf' : ∀ r ∈ sorted, r.1 ≤ r.2 := fun r hr => hwf r (hperm.mem_iff.1 hr)
  rw [← hperm.pairwise_iff fun h h' => h h'.symm, pairwise_not_meets_iff hwf' hleft,
    ← isChain_before_iff_pairwise hleft, isChain_iff_zip_tail]
  simp [Before]

/-- Two entries at different positions meet. -/
theorem not_pairwise_not_meets_iff {l : List (α × α)} :
    (¬ l.Pairwise fun a b => ¬ Meets a b) ↔
      ∃ (i j : Nat) (a b : α × α), i ≠ j ∧ l[i]? = some a ∧ l[j]? = some b ∧ Meets a b := by
  rw [List.pairwise_iff_getElem]
  push Not
  constructor
  · rintro ⟨i, j, hi, hj, hij, hmeets⟩
    exact ⟨i, j, l[i], l[j], hij.ne, List.getElem?_eq_getElem hi, List.getElem?_eq_getElem hj,
      hmeets⟩
  · rintro ⟨i, j, a, b, hij, ha, hb, hmeets⟩
    obtain ⟨hi, rfl⟩ := List.getElem?_eq_some_iff.1 ha
    obtain ⟨hj, rfl⟩ := List.getElem?_eq_some_iff.1 hb
    rcases Nat.lt_or_gt_of_ne hij with h | h
    · exact ⟨i, j, hi, hj, h, hmeets⟩
    · exact ⟨j, i, hj, hi, h, hmeets.symm⟩

end Intervals
