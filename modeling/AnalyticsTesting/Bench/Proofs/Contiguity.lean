import Mathlib.Tactic.Linarith
import AnalyticsTesting.Bench.Proofs.ValidateCorrectness

set_option autoImplicit false

/-! # What the contiguity check leaves unexplained

The check compares numbers, generator by generator: how many the range of a generator has, how many
different ones its rows have, and how many records of the run were never acked. Two things escape
it. The budget of the run explains the gap of every generator anew, and a row whose number is
outside the range of its generator stands for one that is missing (`contiguity_pass_iff_missing`).

So the gaps of a run that passes are bounded by one budget a generator plus the stray numbers
(`missing_le_of_pass`), and they are within the budget itself unless they hide behind each other
(`accountsForGaps_iff`). -/

namespace AnalyticsTesting.Bench

variable {rows : List ViewRow} {m : Manifest}

/-! ## Gaps -/

/-- The numbers of the range of a generator. -/
def ManifestGenerator.range (gen : ManifestGenerator) : Finset Int :=
  (Finset.range gen.expectedSpan.toNat).image fun i : Nat => gen.expectMin + i

/-- The numbers that the rows of a generator have. -/
def landedNumbers (rows : List ViewRow) (gen : ManifestGenerator) : Finset Int :=
  Bag.values ((rowsOf rows gen.genId).map (·.seq))

/-- The numbers of the range that no row of the generator has. -/
def missing (rows : List ViewRow) (gen : ManifestGenerator) : Finset Int :=
  gen.range \ landedNumbers rows gen

/-- The numbers outside the range that a row of the generator has. -/
def stray (rows : List ViewRow) (gen : ManifestGenerator) : Finset Int :=
  landedNumbers rows gen \ gen.range

/-- The records that were offered and never acked. -/
def Manifest.unackedBudget (m : Manifest) : Int := max 0 (m.offered - m.accepted)

/-- The gaps of all generators. -/
def totalMissing (rows : List ViewRow) (m : Manifest) : Nat :=
  (m.generators.map fun gen => (missing rows gen).card).sum

theorem mem_range {gen : ManifestGenerator} {n : Int} :
    n ∈ gen.range ↔ gen.expectMin ≤ n ∧ n ≤ gen.expectMax := by
  simp only [ManifestGenerator.range, Finset.mem_image, Finset.mem_range,
    ManifestGenerator.expectedSpan]
  constructor
  · rintro ⟨i, hi, rfl⟩
    omega
  · intro h
    exact ⟨(n - gen.expectMin).toNat, by omega, by omega⟩

theorem card_range (gen : ManifestGenerator) : (gen.range.card : Int) = gen.expectedSpan := by
  have hinj : Function.Injective fun i : Nat => gen.expectMin + i := fun i j hij => by
    simpa using hij
  have hnonneg : 0 ≤ gen.expectedSpan := le_max_left ..
  rw [ManifestGenerator.range, Finset.card_image_of_injective _ hinj, Finset.card_range,
    Int.toNat_of_nonneg hnonneg]

/-- The count of the check is off by the stray numbers. -/
theorem missing_add_distinct (rows : List ViewRow) (gen : ManifestGenerator) :
    ((missing rows gen).card : Int) + Bag.countDistinct ((rowsOf rows gen.genId).map (·.seq))
      = gen.expectedSpan + (stray rows gen).card := by
  have hbalance := Bag.card_missing_add_countDistinct gen.range
    ((rowsOf rows gen.genId).map (·.seq))
  rw [← card_range]
  exact_mod_cast hbalance

/-! ## What the check says -/

/-- **The check asks of each generator that its gap is within the budget and its stray numbers.** -/
theorem contiguity_pass_iff_missing (rows : List ViewRow) (m : Manifest) :
    (contiguityCheck (m.generators.map (generatorResult rows m))).pass = true ↔
      ∀ gen ∈ m.generators,
        ((missing rows gen).card : Int) ≤ (stray rows gen).card + m.unackedBudget := by
  rw [contiguity_pass_iff]
  refine forall₂_congr fun gen _ => ?_
  have hbalance := missing_add_distinct rows gen
  unfold Manifest.unackedBudget
  omega

/-- **What a pass does bound.** -/
theorem missing_le_of_pass
    (hpass : (contiguityCheck (m.generators.map (generatorResult rows m))).pass = true) :
    (totalMissing rows m : Int) ≤ (m.generators.map fun gen => ((stray rows gen).card : Int)).sum
      + m.generators.length * m.unackedBudget := by
  have heach := (contiguity_pass_iff_missing rows m).1 hpass
  unfold totalMissing
  generalize m.generators = gens at heach ⊢
  induction gens with
  | nil => simp
  | cons gen rest ih =>
      have hgen := heach gen (List.mem_cons_self ..)
      have hrest := ih fun g hg => heach g (List.mem_cons_of_mem _ hg)
      simp only [List.map_cons, List.sum_cons, List.length_cons]
      push_cast at hrest ⊢
      linarith

/-! ## When no gap hides -/

/-- A pass of the check means that the budget explains all gaps. -/
def AccountsForGaps (result : Result) (rows : List ViewRow) (m : Manifest) : Prop :=
  result.contiguity.pass = true → (totalMissing rows m : Int) ≤ m.unackedBudget

/-- There are more gaps than the budget explains, and every generator hides its own: behind stray
    numbers, or behind the budget that the other generators use as well. -/
structure GapsHide (rows : List ViewRow) (m : Manifest) : Prop where
  unexplained : m.unackedBudget < totalMissing rows m
  hidden : ∀ gen ∈ m.generators,
    ((missing rows gen).card : Int) ≤ (stray rows gen).card + m.unackedBudget

/-- Gaps hide behind stray numbers, or behind a budget that several generators use. -/
theorem GapsHide.stray_or_shared (h : GapsHide rows m) :
    (∃ gen ∈ m.generators, (stray rows gen).Nonempty) ∨
      (2 ≤ m.generators.length ∧ 0 < m.unackedBudget) := by
  by_cases hstray : ∃ gen ∈ m.generators, (stray rows gen).Nonempty
  · exact Or.inl hstray
  · have hnone : (m.generators.map fun gen => ((stray rows gen).card : Int)).sum = 0 := by
      refine List.sum_eq_zero fun c hc => ?_
      obtain ⟨gen, hgen, rfl⟩ := List.mem_map.1 hc
      have hempty := Finset.not_nonempty_iff_eq_empty.1 fun hne => hstray ⟨gen, hgen, hne⟩
      rw [hempty, Finset.card_empty, Nat.cast_zero]
    have hbound := missing_le_of_pass ((contiguity_pass_iff_missing rows m).2 h.hidden)
    have hmore := h.unexplained
    have hbudget : 0 ≤ m.unackedBudget := le_max_left ..
    rw [hnone, zero_add] at hbound
    -- the budget is less than its multiple by the number of generators
    have hlt : m.unackedBudget < m.generators.length * m.unackedBudget := by omega
    refine Or.inr ⟨?_, ?_⟩
    · by_contra hfew
      have hlen : (m.generators.length : Int) ≤ 1 := by omega
      nlinarith
    · by_contra hzero
      have heq : m.unackedBudget = 0 := by omega
      rw [heq] at hlt
      omega

/-- **When the check accounts for every gap.** -/
theorem accountsForGaps_iff (db : Duckdb) (lake : Lake) (window : Window) (views : Views)
    (m : Manifest) :
    AccountsForGaps (validate db lake window views m) views.runRows m ↔
      ¬ GapsHide views.runRows m := by
  have hcheck : (validate db lake window views m).contiguity.pass = true ↔ _ :=
    contiguity_pass_iff_missing views.runRows m
  unfold AccountsForGaps
  rw [hcheck]
  constructor
  · rintro haccounts ⟨hmore, hhidden⟩
    exact absurd (haccounts hhidden) (not_le.2 hmore)
  · intro hno hhidden
    by_contra hmore
    exact hno ⟨not_le.1 hmore, hhidden⟩

/-- Two generators that offered two records each. -/
def twoGenerators : Manifest where
  testId := none
  generators := [⟨some "a", some 0, some 1⟩, ⟨some "b", some 0, some 1⟩]
  totalOffered := some 4
  totalAccepted := some 3
  totalRejected := none

/-- One record of the run was not acked. A record is missing from each generator. -/
theorem not_accountsForGaps_twoGenerators :
    ¬ ∀ (db : Duckdb) (lake : Lake) (window : Window) (views : Views) (m : Manifest),
      AccountsForGaps (validate db lake window views m) views.runRows m := by
  intro hall
  let views : Views := ⟨[], [⟨some "a", some 0, 0, none, none⟩, ⟨some "b", some 1, 0, none, none⟩]⟩
  have haccounts := hall plainDuckdb (lakeOf []) ⟨0, 0⟩ views twoGenerators (by decide +kernel)
  exact absurd haccounts (by decide +kernel)

/-- The gap of a generator hides behind a number that it was not to send. -/
example : GapsHide [⟨some "a", some 7, 0, none, none⟩]
    ⟨none, [⟨some "a", some 0, some 0⟩], some 1, some 1, none⟩ :=
  ⟨by decide +kernel, by decide +kernel⟩

end AnalyticsTesting.Bench
