import Mathlib.Data.List.ReduceOption
import Mathlib.Algebra.Order.Ring.Int

set_option autoImplicit false

/-! # Growth of a counter that is not always there

A counter is read again and again, and some readings have no value for it. `growth` adds up the
differences between neighbours that are both there; what the counter grew by across a gap is
`gapGrowth`. Together they are the difference between the last value and the first
(`growth_add_gapGrowth`). -/

namespace Growth

/-- From one reading to the next. -/
def delta : Option Int → Option Int → Int
  | some a, some b => b - a
  | _, _ => 0

/-- The growth that two neighbouring readings show, after a reading `prev`. -/
def growth (prev : Option Int) : List (Option Int) → Int
  | [] => 0
  | cur :: rest => delta prev cur + growth cur rest

/-- The growth since the last value `seen` that only shows across a gap. `gap` says that a reading
without a value is in between. -/
def gapGrowth (seen : Option Int) (gap : Bool) : List (Option Int) → Int
  | [] => 0
  | none :: rest => gapGrowth seen true rest
  | some b :: rest => (if gap then delta seen (some b) else 0) + gapGrowth (some b) false rest

/-- The last value minus the first. -/
def span (readings : List (Option Int)) : Int :=
  readings.reduceOption.getLastD 0 - readings.reduceOption.headD 0

theorem growth_add_gapGrowth_of_seen (rest : List (Option Int)) :
    ∀ a : Int,
      growth (some a) rest + gapGrowth (some a) false rest
          = (a :: rest.reduceOption).getLastD 0 - a ∧
        growth none rest + gapGrowth (some a) true rest
          = (a :: rest.reduceOption).getLastD 0 - a := by
  induction rest with
  | nil => intro a; simp [growth, gapGrowth]
  | cons cur rest ih =>
      intro a
      cases cur with
      | none =>
          obtain ⟨-, hgap⟩ := ih a
          simp only [growth, gapGrowth, delta, List.reduceOption_cons_of_none, zero_add]
          exact ⟨hgap, hgap⟩
      | some b =>
          obtain ⟨hseen, -⟩ := ih b
          have hlast : (a :: b :: rest.reduceOption).getLastD 0
              = (b :: rest.reduceOption).getLastD 0 := by
            simp
          simp only [growth, gapGrowth, delta, List.reduceOption_cons_of_some, hlast, if_true,
            Bool.false_eq_true, if_false]
          constructor <;> omega

theorem growth_add_gapGrowth_of_unseen (rest : List (Option Int)) :
    ∀ gap : Bool, growth none rest + gapGrowth none gap rest = span rest := by
  induction rest with
  | nil => intro gap; rfl
  | cons cur rest ih =>
      intro gap
      cases cur with
      | none =>
          have h := ih true
          simpa [growth, gapGrowth, delta, span, List.reduceOption_cons_of_none] using h
      | some b =>
          obtain ⟨h, -⟩ := growth_add_gapGrowth_of_seen rest b
          simp only [growth, gapGrowth, delta, span, List.reduceOption_cons_of_some,
            List.headD_cons, ite_self, zero_add]
          exact h

/-- **Nothing is counted twice.** Neighbours and gaps together show the whole growth. -/
theorem growth_add_gapGrowth (first : Option Int) (rest : List (Option Int)) :
    growth first rest + gapGrowth none false (first :: rest) = span (first :: rest) := by
  cases first with
  | none =>
      have h := growth_add_gapGrowth_of_unseen rest true
      simpa [gapGrowth, span, List.reduceOption_cons_of_none] using h
  | some a =>
      obtain ⟨h, -⟩ := growth_add_gapGrowth_of_seen rest a
      simpa [gapGrowth, span, delta, List.reduceOption_cons_of_some] using h

/-- Without a gap the neighbours show all of it. -/
theorem gapGrowth_eq_zero {rest : List (Option Int)} (h : ∀ v ∈ rest, v ≠ none) :
    ∀ seen : Option Int, gapGrowth seen false rest = 0 := by
  induction rest with
  | nil => intro seen; rfl
  | cons cur rest ih =>
      intro seen
      cases cur with
      | none => exact absurd rfl (h none List.mem_cons_self)
      | some b =>
          have hrest := ih (fun v hv => h v (List.mem_cons_of_mem _ hv)) (some b)
          simp [gapGrowth, hrest]

/-- A counter that never goes back loses nothing to a gap but growth. -/
theorem gapGrowth_nonneg {rest : List (Option Int)} :
    ∀ {seen : Option Int} {gap : Bool}, (seen :: rest).reduceOption.Pairwise (· ≤ ·) →
      0 ≤ gapGrowth seen gap rest := by
  induction rest with
  | nil => intro seen gap _; exact le_rfl
  | cons cur rest ih =>
      intro seen gap h
      cases cur with
      | none =>
          refine ih ?_
          cases seen <;>
            simpa [List.reduceOption_cons_of_none, List.reduceOption_cons_of_some] using h
      | some b =>
          have hrest : 0 ≤ gapGrowth (some b) false rest := by
            refine ih ?_
            cases seen with
            | none => simpa [List.reduceOption_cons_of_none] using h
            | some a =>
                simp only [List.reduceOption_cons_of_some] at h ⊢
                exact h.of_cons
          have hstep : 0 ≤ delta seen (some b) := by
            cases seen with
            | none => exact le_rfl
            | some a =>
                simp only [List.reduceOption_cons_of_some, List.pairwise_cons] at h
                have hle := h.1 b List.mem_cons_self
                simpa [delta] using hle
          simp only [gapGrowth]
          split_ifs
          · omega
          · omega

end Growth
