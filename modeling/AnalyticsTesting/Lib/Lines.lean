import Mathlib.Data.List.TakeWhile

set_option autoImplicit false

/-! # Texts that grow by lines

A text is its lines, each of them ended by a separator, and the rest behind the last one.
`dropLines` is `tail -n +(n + 1)`. Where the lines of a text have been counted and it grows after
that, dropping as many of them leaves the rest that there was, and what has been appended
(`dropLines_count`). -/

namespace Lines

variable {α : Type*} [DecidableEq α] (sep : α)

/-- The lines that are ended. -/
def lines (t : List α) : List (List α) := (t.splitOn sep).dropLast

/-- What follows the last separator. -/
def rest (t : List α) : List α := (t.splitOn sep).getLastD []

/-- The text behind the first `n` separators. -/
def dropLines : Nat → List α → List α
  | 0, t => t
  | n + 1, t => dropLines n ((t.dropWhile fun c => c ≠ sep).drop 1)

variable {sep} {t u v : List α}

theorem splitOn_eq (t : List α) : t.splitOn sep = lines sep t ++ [rest sep t] := by
  have hne := List.splitOn_ne_nil sep t
  have hlast : rest sep t = (t.splitOn sep).getLast hne := by
    rw [rest, List.getLastD_eq_getLast?, List.getLast?_eq_some_getLast hne, Option.getD_some]
  rw [lines, hlast, List.dropLast_concat_getLast]

/-- A text without a separator. -/
theorem lines_of_not_mem (h : sep ∉ t) : lines sep t = [] := by
  simp [lines, List.splitOn_eq_singleton h]

theorem rest_of_not_mem (h : sep ∉ t) : rest sep t = t := by
  simp [rest, List.splitOn_eq_singleton h]

theorem splitOn_append (sep : α) (u v : List α) :
    lines sep (u ++ sep :: v) ++ [rest sep (u ++ sep :: v)]
      = lines sep u ++ [rest sep u] ++ (lines sep v ++ [rest sep v]) := by
  rw [← splitOn_eq, ← splitOn_eq, ← splitOn_eq, List.splitOn_append_cons_self]

theorem lines_append_cons (u v : List α) :
    lines sep (u ++ sep :: v) = lines sep u ++ rest sep u :: lines sep v := by
  have h := splitOn_append sep u v
  rw [← List.append_assoc] at h
  simpa using (List.append_inj' h rfl).1

theorem rest_append_cons (u v : List α) : rest sep (u ++ sep :: v) = rest sep v := by
  have h := splitOn_append sep u v
  rw [← List.append_assoc] at h
  simpa using (List.append_inj' h rfl).2

/-- Texts by the lines at their front. -/
theorem induction_lines (sep : α) {P : List α → Prop} (base : ∀ t, sep ∉ t → P t)
    (line : ∀ l t, sep ∉ l → P t → P (l ++ sep :: t)) (t : List α) : P t := by
  induction hn : t.length using Nat.strongRecOn generalizing t with
  | _ n ih =>
      by_cases hmem : sep ∈ t
      · obtain ⟨l, t', rfl, hl⟩ := List.eq_append_cons_of_mem hmem
        refine line l t' hl (ih t'.length ?_ t' rfl)
        rw [← hn, List.length_append, List.length_cons]
        omega
      · exact base t hmem

theorem length_lines (t : List α) : (lines sep t).length = t.count sep := by
  induction t using induction_lines sep with
  | base t h => rw [lines_of_not_mem h, List.count_eq_zero_of_not_mem h, List.length_nil]
  | line l t h ih =>
      rw [lines_append_cons, lines_of_not_mem h, List.count_append, List.count_cons_self,
        List.count_eq_zero_of_not_mem h]
      simp [ih]

theorem lines_line {l : List α} (h : sep ∉ l) (t : List α) :
    lines sep (l ++ sep :: t) = l :: lines sep t := by
  rw [lines_append_cons, lines_of_not_mem h, rest_of_not_mem h, List.nil_append]

/-- What is appended goes on with the rest. -/
theorem lines_append (u v : List α) :
    lines sep (u ++ v) = lines sep u ++ lines sep (rest sep u ++ v) := by
  induction u using induction_lines sep with
  | base u h => rw [lines_of_not_mem h, rest_of_not_mem h, List.nil_append]
  | line l u h ih =>
      rw [List.append_assoc, List.cons_append, lines_line h, lines_line h, rest_append_cons, ih]
      rfl

/-! ## Dropping lines -/

theorem dropLines_line {l : List α} (h : sep ∉ l) (n : Nat) (t : List α) :
    dropLines sep (n + 1) (l ++ sep :: t) = dropLines sep n t := by
  have hl : ∀ c ∈ l, decide (c ≠ sep) = true := by
    intro c hc
    simp only [decide_eq_true_eq]
    rintro rfl
    exact h hc
  rw [dropLines, List.dropWhile_append_of_pos hl]
  simp

theorem dropLines_of_not_mem (h : sep ∉ t) (n : Nat) : dropLines sep (n + 1) t = [] := by
  have ht : t.dropWhile (fun c => c ≠ sep) = [] := by
    refine List.dropWhile_eq_nil_iff.2 fun c hc => ?_
    simp only [decide_eq_true_eq]
    rintro rfl
    exact h hc
  rw [dropLines, ht, List.drop_nil]
  induction n with
  | zero => rfl
  | succ n ih => exact ih

/-- **The lines that were counted are dropped**, and no others. -/
theorem dropLines_count (u v : List α) :
    dropLines sep (u.count sep) (u ++ v) = rest sep u ++ v := by
  induction u using induction_lines sep with
  | base u h => rw [List.count_eq_zero_of_not_mem h, rest_of_not_mem h]; rfl
  | line l u h ih =>
      rw [List.count_append, List.count_cons_self, List.count_eq_zero_of_not_mem h, Nat.zero_add,
        List.append_assoc, List.cons_append, dropLines_line h, ih, rest_append_cons]

theorem lines_dropLines (n : Nat) (t : List α) :
    lines sep (dropLines sep n t) = (lines sep t).drop n := by
  induction t using induction_lines sep generalizing n with
  | base t h =>
      cases n with
      | zero => rfl
      | succ n => rw [dropLines_of_not_mem h, lines_of_not_mem h]; rfl
  | line l t h ih =>
      cases n with
      | zero => rfl
      | succ n => rw [dropLines_line h, ih, lines_line h, List.drop_succ_cons]

/-- The lines there were are the first of those there are. -/
theorem take_lines_of_prefix (h : u <+: v) : (lines sep v).take (u.count sep) = lines sep u := by
  obtain ⟨more, rfl⟩ := h
  rw [lines_append, ← length_lines, List.take_left]

theorem count_le_of_prefix (h : u <+: v) : u.count sep ≤ v.count sep := h.sublist.count_le sep

end Lines
