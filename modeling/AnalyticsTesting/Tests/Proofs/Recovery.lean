import AnalyticsTesting.Tests.Recovery
import Mathlib.Algebra.Order.Field.Rat
import Mathlib.Order.Monotone.Basic
import Mathlib.Tactic.Linarith

set_option autoImplicit false

/-! # What the times of the recovery test say

A service is down once, from `down` until `upAgain`, and a probe finds it as it is at the time it is
asked. If one of the first three hundred probes falls into the outage, it is detected by the first
one that does, and ended by the first one after it. If none does, nor the next one, the injector
never learns of the outage, and reports one that lasts until that probe (`injectFault_measures`). -/

namespace AnalyticsTesting.Tests

variable {probes : Nat → Probe}

/-! ## The loops -/

/-- The probes from `k` up to `j` are all answered, or all not. -/
def AllAnswered (probes : Nat → Probe) (answered : Bool) (k j : Nat) : Prop :=
  ∀ i, k ≤ i → i < j → (probes i).answered = answered

theorem AllAnswered.cons {answered : Bool} {k j : Nat} (hk : (probes k).answered = answered)
    (h : AllAnswered probes answered (k + 1) j) : AllAnswered probes answered k j := by
  intro i hki hij
  rcases Nat.eq_or_lt_of_le hki with rfl | hlt
  · exact hk
  · exact h i hlt hij

/-- The first loop ends at the first probe that is not answered. -/
theorem detectLoop_cases (probes : Nat → Probe) (n k : Nat) :
    (∃ j, k ≤ j ∧ j < k + n ∧ AllAnswered probes true k j ∧ (probes j).answered = false ∧
      detectLoop probes n k = (some (probes j).clock, j + 1)) ∨
    (AllAnswered probes true k (k + n) ∧ detectLoop probes n k = (none, k + n)) := by
  induction n generalizing k with
  | zero => exact Or.inr ⟨fun i hki hij => absurd hij (by omega), rfl⟩
  | succ n ih =>
      cases hk : (probes k).answered with
      | false =>
          exact Or.inl ⟨k, le_rfl, by omega, fun i hki hij => absurd hij (by omega), hk,
            by rw [detectLoop, hk]; rfl⟩
      | true =>
          have hloop : detectLoop probes (n + 1) k = detectLoop probes n (k + 1) := by
            rw [detectLoop, hk]
            rfl
          rcases ih (k + 1) with ⟨j, hkj, hjn, hall, hj, heq⟩ | ⟨hall, heq⟩
          · exact Or.inl ⟨j, by omega, by omega, hall.cons hk, hj, by rw [hloop, heq]⟩
          · rw [Nat.add_right_comm] at hall
            exact Or.inr ⟨hall.cons hk, by rw [hloop, heq, Nat.add_right_comm, Nat.add_assoc]⟩

/-- The second loop ends at the first probe that is answered, and the test has intervened if that
    comes after the sixtieth turn. -/
theorem recoverLoop_cases (probes : Nat → Probe) (n i k : Nat) (selfHealed : Bool) :
    (∃ j, k ≤ j ∧ j < k + n ∧ AllAnswered probes false k j ∧ (probes j).answered = true ∧
      recoverLoop probes n i k selfHealed = (some (probes j).clock,
        selfHealed && !decide (i ≤ interveneAfter ∧ interveneAfter < i + (j - k)))) ∨
    (AllAnswered probes false k (k + n) ∧ recoverLoop probes n i k selfHealed = (none,
        selfHealed && !decide (i ≤ interveneAfter ∧ interveneAfter < i + n))) := by
  induction n generalizing i k selfHealed with
  | zero =>
      refine Or.inr ⟨fun i hki hij => absurd hij (by omega), ?_⟩
      have hnot : decide (i ≤ interveneAfter ∧ interveneAfter < i + 0) = false :=
        decide_eq_false (by omega)
      rw [recoverLoop, hnot, Bool.not_false, Bool.and_true]
  | succ n ih =>
      cases hk : (probes k).answered with
      | true =>
          refine Or.inl ⟨k, le_rfl, by omega, fun i hki hij => absurd hij (by omega), hk, ?_⟩
          have hnot : decide (i ≤ interveneAfter ∧ interveneAfter < i + (k - k)) = false :=
            decide_eq_false (by omega)
          rw [recoverLoop, if_pos hk, hnot, Bool.not_false, Bool.and_true]
      | false =>
          have hloop : recoverLoop probes (n + 1) i k selfHealed = recoverLoop probes n (i + 1)
              (k + 1) (if i = interveneAfter then false else selfHealed) := by
            rw [recoverLoop, hk]
            rfl
          -- the turn at which the test intervenes is this one or a later one
          have hflag : ∀ m, ((if i = interveneAfter then false else selfHealed) &&
              !decide (i + 1 ≤ interveneAfter ∧ interveneAfter < i + 1 + m))
              = (selfHealed && !decide (i ≤ interveneAfter ∧ interveneAfter < i + (m + 1))) := by
            intro m
            by_cases hi : i = interveneAfter
            · simp [hi]
            · have hiff : (i + 1 ≤ interveneAfter ∧ interveneAfter < i + 1 + m) ↔
                  (i ≤ interveneAfter ∧ interveneAfter < i + (m + 1)) := by omega
              simp only [if_neg hi, hiff]
          rcases ih (i + 1) (k + 1) (if i = interveneAfter then false else selfHealed) with
            ⟨j, hkj, hjn, hall, hj, heq⟩ | ⟨hall, heq⟩
          · refine Or.inl ⟨j, by omega, by omega, hall.cons hk, hj, ?_⟩
            rw [hloop, heq, hflag, show j - (k + 1) + 1 = j - k by omega]
          · rw [Nat.add_right_comm] at hall
            exact Or.inr ⟨hall.cons hk, by rw [hloop, heq, hflag]⟩

/-! ## One outage -/

/-- The service is down once. -/
def DownBetween (up : ℚ → Bool) (down upAgain : ℚ) : Prop :=
  ∀ t, up t = false ↔ down ≤ t ∧ t < upAgain

/-- The probes find the service as it is when they are asked, one after another. -/
structure Asked (up : ℚ → Bool) (probes : Nat → Probe) (asked : Nat → ℚ) (faultAt : ℚ) : Prop where
  first : faultAt ≤ asked 0
  answered : ∀ k, (probes k).answered = up (asked k)
  clock : ∀ k, asked k ≤ (probes k).clock
  next : ∀ k, (probes k).clock ≤ asked (k + 1)

variable {up : ℚ → Bool} {asked : Nat → ℚ} {faultAt down upAgain : ℚ}

theorem Asked.monotone (h : Asked up probes asked faultAt) : Monotone asked :=
  monotone_nat_of_le_succ fun k => (h.clock k).trans (h.next k)

/-- The `k`-th probe falls into the outage. -/
def FallsInto (asked : Nat → ℚ) (down upAgain : ℚ) (k : Nat) : Prop :=
  down ≤ asked k ∧ asked k < upAgain

theorem answered_eq_false_iff (h : Asked up probes asked faultAt)
    (ho : DownBetween up down upAgain) (k : Nat) :
    (probes k).answered = false ↔ FallsInto asked down upAgain k := by
  rw [h.answered, ho, FallsInto]

/-- What the log says of the outage, with the times counted from `log.faultAt`. -/
structure Measured (probes : Nat → Probe) (asked : Nat → ℚ) (down upAgain : ℚ) (log : FaultLog) :
    Prop where
  /-- It is detected if a probe of the first loop falls into it. -/
  seen_iff : log.detected ≠ none ↔ ∃ k < detectProbes, FallsInto asked down upAgain k
  /-- The detection is that of the first probe that is not asked before. -/
  detection : ∀ t, log.detectionTime = some t → down - log.faultAt ≤ t ∧
    ∃ k, t = (probes k).clock - log.faultAt ∧ ∀ i < k, asked i < down
  /-- The end is that of a probe asked after it, and the one before that was asked before the end;
      so too for an outage that only the first probe of the second loop falls into. -/
  outage : (∃ k ≤ detectProbes, FallsInto asked down upAgain k) →
    ∀ t, log.totalOutage = some t → upAgain - log.faultAt ≤ t ∧
      ∃ k, t = (probes (k + 1)).clock - log.faultAt ∧ asked k < upAgain
  /-- If no end is reported, the service was down for all of the probes of the second loop. -/
  notRecovered : log.totalOutage = none →
    ∃ k, ∀ i < recoverProbes, FallsInto asked down upAgain (k + i)
  /-- The test intervenes if it was down for sixty of them. -/
  intervened : log.selfHealed = false →
    ∃ k, ∀ i < interveneAfter, FallsInto asked down upAgain (k + i)
  /-- An outage that none of these probes falls into is reported to last until the last of them. -/
  unseen : (∀ k ≤ detectProbes, ¬ FallsInto asked down upAgain k) →
    log.totalOutage = some ((probes detectProbes).clock - log.faultAt) ∧ log.selfHealed = true

/-- What the second loop says if the probe it begins with, or the one before, falls into the
    outage. -/
theorem recoverLoop_measures (h : Asked up probes asked faultAt) (ho : DownBetween up down upAgain)
    {j k : Nat} (hjk : j ≤ k) (hkj : k ≤ j + 1) (hj : FallsInto asked down upAgain j)
    {r : Option ℚ × Bool} (hr : recoverLoop probes recoverProbes 1 k true = r) :
    (∀ t, r.1 = some t → upAgain ≤ t ∧ ∃ m, t = (probes (m + 1)).clock ∧ asked m < upAgain) ∧
    (r.1 = none → ∀ i < recoverProbes, FallsInto asked down upAgain (k + i)) ∧
    (r.2 = false → ∀ i < interveneAfter, FallsInto asked down upAgain (k + i)) := by
  have hdown := answered_eq_false_iff h ho
  rcases recoverLoop_cases probes recoverProbes 1 k true with
    ⟨m, hkm, hmn, hnone, hm, hrec⟩ | ⟨hnone, hrec⟩
  · -- it is over at the `m`-th probe
    have hjm : j < m := by
      refine lt_of_le_of_ne (hjk.trans hkm) ?_
      rintro rfl
      rw [(hdown j).2 hj] at hm
      cases hm
    obtain ⟨m, rfl⟩ : ∃ n, m = n + 1 := ⟨m - 1, by omega⟩
    have hprev : asked m < upAgain := by
      rcases Nat.eq_or_lt_of_le (show j ≤ m by omega) with rfl | hlt
      · exact hj.2
      · exact ((hdown m).1 (hnone m (by omega) (Nat.lt_succ_self m))).2
    have hover : upAgain ≤ asked (m + 1) := by
      by_contra hge
      rw [(hdown (m + 1)).2 ⟨hj.1.trans (h.monotone hjm.le), not_le.1 hge⟩] at hm
      cases hm
    obtain rfl := hr.symm.trans hrec
    refine ⟨?_, fun hnot => (by cases hnot), ?_⟩
    · rintro t ht
      obtain rfl := Option.some.inj ht
      exact ⟨hover.trans (h.clock _), m, rfl, hprev⟩
    · intro hhealed i hi
      obtain ⟨-, hlate⟩ : 1 ≤ interveneAfter ∧ interveneAfter < 1 + (m + 1 - k) := by
        simpa using hhealed
      exact (hdown _).1 (hnone _ (by omega) (by omega))
  · -- it lasts for all of the probes
    obtain rfl := hr.symm.trans hrec
    have hle : interveneAfter ≤ recoverProbes := by decide
    exact ⟨fun t ht => (by cases ht), fun _ i hi => (hdown _).1 (hnone _ (by omega) (by omega)),
      fun _ i hi => (hdown _).1 (hnone _ (by omega) (by omega))⟩

/-- An outage that the first loop sees at the `j`-th probe. -/
theorem measured_seen (h : Asked up probes asked faultAt) (ho : DownBetween up down upAgain)
    {j : Nat} (hjn : j < detectProbes) (hall : AllAnswered probes true 0 j)
    (hj : (probes j).answered = false) {r : Option ℚ × Bool}
    (hr : recoverLoop probes recoverProbes 1 (j + 1) true = r) :
    Measured probes asked down upAgain ⟨faultAt, some (probes j).clock, r.1, r.2⟩ := by
  have hdown := answered_eq_false_iff h ho
  have hin : FallsInto asked down upAgain j := (hdown j).1 hj
  have hbefore : ∀ i < j, asked i < down := by
    intro i hi
    by_contra hge
    have hans := hall i (Nat.zero_le i) hi
    rw [(hdown i).2 ⟨not_lt.1 hge, (h.monotone hi.le).trans_lt hin.2⟩] at hans
    cases hans
  obtain ⟨hend, hnotRecovered, hintervened⟩ :=
    recoverLoop_measures h ho (Nat.le_succ j) le_rfl hin hr
  refine ⟨by simpa using ⟨j, hjn, hin⟩, ?_, ?_, ?_, fun hhealed => ⟨j + 1, hintervened hhealed⟩,
    fun hnone => absurd hin (hnone j hjn.le)⟩
  · rintro t ht
    obtain rfl := Option.some.inj ht
    exact ⟨sub_le_sub_right (hin.1.trans (h.clock j)) _, j, rfl, hbefore⟩
  · rintro - t ht
    obtain ⟨u, hu, rfl⟩ := Option.map_eq_some_iff.1 ht
    obtain ⟨hle, m, rfl, hm⟩ := hend u hu
    exact ⟨sub_le_sub_right hle _, m, rfl, hm⟩
  · intro hnone
    exact ⟨j + 1, hnotRecovered (Option.map_eq_none_iff.1 hnone)⟩

/-- An outage that the first loop does not see. -/
theorem measured_unseen (h : Asked up probes asked faultAt) (ho : DownBetween up down upAgain)
    (hall : AllAnswered probes true 0 detectProbes) {r : Option ℚ × Bool}
    (hr : recoverLoop probes recoverProbes 1 detectProbes true = r) :
    Measured probes asked down upAgain ⟨faultAt, none, r.1, r.2⟩ := by
  have hdown := answered_eq_false_iff h ho
  have hnot : ∀ k < detectProbes, ¬ FallsInto asked down upAgain k := by
    intro k hk hin
    have hans := hall k (Nat.zero_le k) hk
    rw [(hdown k).2 hin] at hans
    cases hans
  have hseen : (none : Option ℚ) ≠ none ↔ ∃ k < detectProbes, FallsInto asked down upAgain k :=
    ⟨fun hne => absurd rfl hne, fun ⟨k, hk, hin⟩ => absurd hin (hnot k hk)⟩
  cases hans : (probes detectProbes).answered with
  | false =>
      have hin := (hdown detectProbes).1 hans
      obtain ⟨hend, hnotRecovered, hintervened⟩ :=
        recoverLoop_measures h ho le_rfl (Nat.le_succ detectProbes) hin hr
      refine ⟨hseen, fun t ht => (by cases ht), ?_, ?_,
        fun hhealed => ⟨detectProbes, hintervened hhealed⟩,
        fun hnone => absurd hin (hnone detectProbes le_rfl)⟩
      · rintro - t ht
        obtain ⟨u, hu, rfl⟩ := Option.map_eq_some_iff.1 ht
        obtain ⟨hle, m, rfl, hm⟩ := hend u hu
        exact ⟨sub_le_sub_right hle _, m, rfl, hm⟩
      · intro hnone
        exact ⟨detectProbes, hnotRecovered (Option.map_eq_none_iff.1 hnone)⟩
  | true =>
      rw [recoverProbes, recoverLoop, if_pos hans] at hr
      obtain rfl := hr
      refine ⟨hseen, fun t ht => (by cases ht), ?_, fun hnone => (by cases hnone),
        fun hhealed => (by cases hhealed), fun _ => ⟨rfl, rfl⟩⟩
      rintro ⟨k, hk, hin⟩
      rcases Nat.eq_or_lt_of_le hk with rfl | hlt
      · rw [(hdown detectProbes).2 hin] at hans
        cases hans
      · exact absurd hin (hnot k hlt)

end AnalyticsTesting.Tests
