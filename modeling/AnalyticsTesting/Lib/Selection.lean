import Mathlib.Order.Lattice
import Mathlib.Data.List.Induction

set_option autoImplicit false

/-! # Loops that keep one element of a list

A loop that goes through a list and keeps an element, taking the next one in its place where `take`
says so (`Selection.select`). What it ends with is characterised by where that element stands:
`select_eq_some_iff` for any loop, `last_eq_some_iff` for the last element with a property,
`firstMax_eq_some_iff` for the first of those with the greatest key, `firstMin_eq_some_iff` for the
first with the least one. -/

namespace Selection

variable {α κ : Type*}

/-- Keep `x` instead of what is kept so far where `take` says so. -/
def select (take : Option α → α → Bool) (xs : List α) : Option α :=
  xs.foldl (fun kept x => if take kept x then some x else kept) none

section Select

variable {take : Option α → α → Bool}

@[simp] theorem select_nil : select take [] = none := rfl

theorem select_concat (xs : List α) (x : α) :
    select take (xs ++ [x]) = if take (select take xs) x then some x else select take xs := by
  rw [select, List.foldl_append]
  rfl

/-- The element kept was taken over what was kept before it, and nothing after it was taken. -/
theorem select_eq_some_iff {xs : List α} {r : α} :
    select take xs = some r ↔ ∃ before after, xs = before ++ r :: after ∧
      take (select take before) r = true ∧ ∀ x ∈ after, take (some r) x = false := by
  constructor
  · intro h
    induction xs using List.reverseRecOn with
    | nil => simp at h
    | append_singleton xs x ih =>
        rw [select_concat] at h
        split at h
        case isTrue htake =>
          obtain rfl := Option.some.inj h
          exact ⟨xs, [], rfl, htake, by simp⟩
        case isFalse hskip =>
          obtain ⟨before, after, rfl, hr, hafter⟩ := ih h
          refine ⟨before, after ++ [x], by simp, hr, fun y hy => ?_⟩
          rcases List.mem_append.1 hy with hy | hy
          · exact hafter y hy
          · obtain rfl := List.mem_singleton.1 hy
            rw [h] at hskip
            simpa using hskip
  · rintro ⟨before, after, rfl, hr, hafter⟩
    induction after using List.reverseRecOn with
    | nil => rw [select_concat, if_pos hr]
    | append_singleton after x ih =>
        rw [← List.cons_append, ← List.append_assoc, select_concat,
          ih fun y hy => hafter y (List.mem_append_left [x] hy), hafter x (by simp)]
        simp

end Select

/-! ## The last one -/

/-- The last element with `p`. -/
def last (p : α → Bool) (xs : List α) : Option α := select (fun _ x => p x) xs

theorem last_eq_some_iff {p : α → Bool} {xs : List α} {r : α} :
    last p xs = some r ↔
      ∃ before after, xs = before ++ r :: after ∧ p r = true ∧ ∀ x ∈ after, p x = false :=
  select_eq_some_iff

/-! ## The first of the greatest -/

section FirstMax

variable [LinearOrder κ]

/-- The first element with `p` that has the greatest key of these. -/
def firstMax (p : α → Bool) (key : α → κ) (xs : List α) : Option α :=
  select (fun kept x => p x && kept.all fun k => key k < key x) xs

variable {p : α → Bool} {key : α → κ}

/-- What is kept is below a bound exactly if everything with `p` is. -/
theorem firstMax_all_lt_iff (xs : List α) (b : κ) :
    ((firstMax p key xs).all fun k => key k < b) = true ↔ ∀ x ∈ xs, p x = true → key x < b := by
  induction xs using List.reverseRecOn generalizing b with
  | nil => simp [firstMax]
  | append_singleton xs x ih =>
      unfold firstMax at ih ⊢
      rw [select_concat, List.forall_mem_append, List.forall_mem_singleton]
      split
      case isTrue htake =>
        obtain ⟨hp, hgreatest⟩ := (Bool.and_eq_true _ _).mp htake
        have hbelow := (ih (key x)).1 hgreatest
        simp only [Option.all_some, decide_eq_true_eq, hp, true_implies]
        exact ⟨fun hx => ⟨fun y hy hpy => lt_trans (hbelow y hy hpy) hx, hx⟩, fun h => h.2⟩
      case isFalse hskip =>
        rw [ih b]
        refine ⟨fun hall => ⟨hall, fun hp => ?_⟩, fun h => h.1⟩
        -- something with `p` before `x` is no smaller
        by_contra hx
        refine hskip ?_
        rw [hp, Bool.true_and, ih (key x)]
        exact fun y hy hpy => lt_of_lt_of_le (hall y hy hpy) (not_lt.1 hx)

theorem firstMax_eq_some_iff {xs : List α} {r : α} :
    firstMax p key xs = some r ↔ ∃ before after, xs = before ++ r :: after ∧ p r = true ∧
      (∀ x ∈ before, p x = true → key x < key r) ∧ ∀ x ∈ after, p x = true → key x ≤ key r := by
  refine select_eq_some_iff.trans (exists_congr fun before => exists_congr fun after => ?_)
  refine and_congr_right fun _ => ?_
  rw [Bool.and_eq_true, and_assoc]
  refine and_congr_right fun _ => and_congr (firstMax_all_lt_iff before (key r)) ?_
  simp

/-- The first element that has the least key. -/
def firstMin (key : α → κ) (xs : List α) : Option α :=
  firstMax (fun _ => true) (fun x => OrderDual.toDual (key x)) xs

theorem firstMin_eq_some_iff {xs : List α} {r : α} :
    firstMin key xs = some r ↔ ∃ before after, xs = before ++ r :: after ∧
      (∀ x ∈ before, key r < key x) ∧ ∀ x ∈ after, key r ≤ key x := by
  simp [firstMin, firstMax_eq_some_iff]

theorem exists_firstMin {xs : List α} (h : xs ≠ []) : ∃ r, firstMin key xs = some r := by
  obtain ⟨x, hx⟩ := List.exists_mem_of_ne_nil xs h
  cases hmin : firstMin key xs with
  | some r => exact ⟨r, rfl⟩
  | none =>
      -- nothing is kept, so everything is below its own key
      have hbelow : ((firstMin key xs).all fun k => OrderDual.toDual (key k)
          < OrderDual.toDual (key x)) = true ↔ _ :=
        firstMax_all_lt_iff xs (OrderDual.toDual (key x))
      rw [hmin] at hbelow
      exact absurd (hbelow.1 rfl x hx rfl) (lt_irrefl _)

end FirstMax

end Selection
