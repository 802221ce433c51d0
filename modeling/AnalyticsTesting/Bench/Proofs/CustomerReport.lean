import AnalyticsTesting.Bench.CustomerReport

set_option autoImplicit false

/-! # Figures of the customer report

The fault-recovery table prints zeros, whatever the run's `correctness.json` says, and a run is
quoted with full delivery from a ratio of 0.99 on. So the report's figures are those of the data if
and only if the recovery run in question lost and duplicated nothing and has a verdict other than
`FAIL`, and the strongest run had every record accepted (`figuresTrue_iff`). -/

namespace AnalyticsTesting.Bench

variable (fl : FloatFormat)

/-! ## What the figures should be -/

/-- The acknowledged records that did not land, from `correctness.json`. -/
def RunDir.lost (r : RunDir) : Int :=
  max 0 ((r.correctness.bind (·.accepted)).getD 0 - r.landed)

/-- An entry of the fault-recovery table. -/
def Recovery.entry (rec : Recovery) (measure : String) : Option String :=
  rec.table.lookup measure

/-- A figure in bold. -/
def bold (n : Int) : String := "**" ++ fmt n ++ "**"

/-- The fault-recovery table has the figures of the run's `correctness.json`, and no zero where the
run failed or was not checked. -/
structure TableTrue (rec : Recovery) : Prop where
  lost : rec.entry "Acknowledged records lost" = some (bold rec.run.lost)
  duplicated : rec.entry "Records duplicated on recovery" = some (bold rec.run.excessRows)
  verdict : rec.run.verdict = some "FAIL" ∨ rec.run.verdict = none →
    rec.entry "Acknowledged records lost" ≠ some (bold 0) ∧
      rec.entry "Records duplicated on recovery" ≠ some (bold 0)

/-- The figures of loss, duplication and delivery are those of the data. -/
structure FiguresTrue (report : CustomerReport) : Prop where
  table : ∀ rec, report.recovery = some rec → TableTrue rec
  /-- The run that is quoted with its delivery had every record accepted. -/
  delivery : ∀ best, report.best = some best →
    best.manifest.totalAccepted = best.manifest.totalOffered

/-! ## Printed numbers -/

/-- Grouping in threes keeps a single zero and makes no other number one. -/
theorem groupThousands_eq_zero {digits : List Char} (h : groupThousands digits = ['0']) :
    digits = ['0'] := by
  unfold groupThousands at h
  have hgo : groupThousands.go digits.reverse 0 = ['0'] := List.reverse_eq_cons_iff.1 h
  cases hdigits : digits.reverse with
  | nil => simp [hdigits, groupThousands.go] at hgo
  | cons c rest =>
      rw [hdigits] at hgo
      obtain ⟨rfl, hrest⟩ := List.cons.inj hgo
      cases rest with
      | nil => simpa using congrArg List.reverse hdigits
      | cons c' rest => simp [groupThousands.go] at hrest

theorem toDigits_eq_zero {n : Nat} (h : Nat.toDigits 10 n = ['0']) : n = 0 := by
  rw [Nat.toDigits_eq_if (by decide)] at h
  split at h
  case isTrue hlt =>
    have hdigit : ∀ d < 10, [Nat.digitChar d] = ['0'] → d = 0 := by decide
    exact hdigit n hlt h
  case isFalse hge =>
    -- a number of two digits or more has as many characters
    have hlen := congrArg List.length h
    have hpos := Nat.length_toDigits_pos (b := 10) (n := n / 10)
    simp only [List.length_append, List.length_cons, List.length_nil] at hlen
    omega

theorem fmt_eq_zero_iff (n : Int) : fmt n = "0" ↔ n = 0 := by
  constructor
  · intro h
    unfold fmt formatInt at h
    have hchars := congrArg String.toList h
    rw [String.toList_append, String.toList_ofList] at hchars
    split at hchars
    case isTrue hneg => simp at hchars
    case isFalse hnonneg =>
      have hdigits : (toString n.natAbs).toList = ['0'] :=
        groupThousands_eq_zero (by simpa using hchars)
      have hzero : n.natAbs = 0 := toDigits_eq_zero (by simpa [Nat.repr] using hdigits)
      exact Int.natAbs_eq_zero.1 hzero
  · rintro rfl
    decide

theorem bold_injective_zero {n : Int} : bold 0 = bold n ↔ n = 0 := by
  constructor
  · intro h
    have hchars := congrArg String.toList h
    simp only [bold, String.toList_append] at hchars
    have hfmt := List.append_cancel_left (List.append_cancel_right hchars)
    exact (fmt_eq_zero_iff n).1 (String.toList_inj.1 hfmt.symm)
  · rintro rfl
    rfl

/-! ## The selection -/

/-- `r` is the last recovery run. -/
def IsRecoveryRun (runs : List RunDir) (r : RunDir) : Prop :=
  ∃ before after, runs = before ++ r :: after ∧ r.isRecovery = true ∧
    ∀ x ∈ after, x.isRecovery = false

/-- `r` is the first of the quotable runs with the highest rate. -/
def IsStrongestRun (runs : List RunDir) (r : RunDir) : Prop :=
  ∃ before after, runs = before ++ r :: after ∧ r.quotable fl = true ∧
    (∀ x ∈ before, x.quotable fl = true → x.rate < r.rate) ∧
    ∀ x ∈ after, x.quotable fl = true → x.rate ≤ r.rate

theorem recoveryRun_eq_some_iff {runs : List RunDir} {rec : Recovery} :
    recoveryRun fl runs = some rec ↔ ∃ r, IsRecoveryRun runs r ∧ Recovery.of fl r = rec := by
  unfold recoveryRun IsRecoveryRun
  simp only [Option.map_eq_some_iff, Selection.last_eq_some_iff]

theorem bestRun_eq_some_iff {runs : List RunDir} {best : RunDir} :
    bestRun fl runs = some best ↔ IsStrongestRun fl runs best :=
  Selection.firstMax_eq_some_iff

/-! ## The table -/

theorem entry_lost (rec : Recovery) :
    rec.entry "Acknowledged records lost" = some (bold 0) := by
  unfold Recovery.entry Recovery.table
  cases rec.detectSeconds <;> cases rec.outageSeconds <;> simp [List.lookup_cons, bold] <;> decide

theorem entry_duplicated (rec : Recovery) :
    rec.entry "Records duplicated on recovery" = some (bold 0) := by
  unfold Recovery.entry Recovery.table
  cases rec.detectSeconds <;> cases rec.outageSeconds <;> simp [List.lookup_cons, bold] <;> decide

theorem build_selected {runs : List RunDir} {report : CustomerReport}
    (h : build fl runs = some report) :
    report.best = bestRun fl runs ∧ report.recovery = recoveryRun fl runs := by
  unfold build at h
  split at h
  · obtain ⟨lines, -, rfl⟩ := Option.map_eq_some_iff.1 h
    exact ⟨rfl, rfl⟩
  · simp at h

/-- A run that lost and duplicated nothing and has a verdict other than `FAIL`. -/
structure RunDir.Lossless (r : RunDir) : Prop where
  lost : r.lost = 0
  excessRows : r.excessRows = 0
  notFailed : r.verdict ≠ some "FAIL"
  checked : r.verdict ≠ none

theorem tableTrue_iff (rec : Recovery) : TableTrue rec ↔ rec.run.Lossless := by
  constructor
  · rintro ⟨hlost, hduplicated, hverdict⟩
    rw [entry_lost, Option.some_inj, bold_injective_zero] at hlost
    rw [entry_duplicated, Option.some_inj, bold_injective_zero] at hduplicated
    refine ⟨hlost, hduplicated, fun hfail => ?_, fun hnone => ?_⟩
    · exact (hverdict (Or.inl hfail)).1 (entry_lost rec)
    · exact (hverdict (Or.inr hnone)).1 (entry_lost rec)
  · rintro ⟨hlost, hexcess, hfail, hnone⟩
    refine ⟨?_, ?_, fun hverdict => ?_⟩
    · rw [entry_lost, hlost]
    · rw [entry_duplicated, hexcess]
    · exact (hverdict.elim hfail hnone).elim

/-- **When the figures are those of the data.** Every figure of loss, duplication and delivery is
true if and only if the recovery run of the table is lossless and the strongest run had every record
accepted. -/
theorem figuresTrue_iff {runs : List RunDir} {report : CustomerReport}
    (h : build fl runs = some report) :
    FiguresTrue report ↔
      (∀ r, IsRecoveryRun runs r → r.Lossless) ∧
      ∀ r, IsStrongestRun fl runs r → r.manifest.totalAccepted = r.manifest.totalOffered := by
  obtain ⟨hbest, hrecovery⟩ := build_selected fl h
  constructor
  · intro htrue
    refine ⟨fun r hr => ?_, fun r hr => ?_⟩
    · have hrec : report.recovery = some (Recovery.of fl r) := by
        rw [hrecovery]
        exact (recoveryRun_eq_some_iff fl).2 ⟨r, hr, rfl⟩
      exact (tableTrue_iff (Recovery.of fl r)).1 (htrue.table _ hrec)
    · exact htrue.delivery r (hbest.trans ((bestRun_eq_some_iff fl).2 hr))
  · rintro ⟨hlossless, hdelivered⟩
    refine ⟨fun rec hrec => ?_, fun best hsome => ?_⟩
    · obtain ⟨r, hr, rfl⟩ := (recoveryRun_eq_some_iff fl).1 (hrecovery.symm.trans hrec)
      exact (tableTrue_iff (Recovery.of fl r)).2 (hlossless r hr)
    · exact hdelivered best ((bestRun_eq_some_iff fl).1 (hbest.symm.trans hsome))

/-! ## A recovery run that lost records -/

/-- A recovery run with 100 records accepted. -/
def recoveryOf (correctness : CorrectnessFile) : RunDir where
  id := "2026-09-17-recovery"
  manifest := { totalOffered := some 120, totalAccepted := some 100, requestsFailed := some 3 }
  totals := none
  steps := []
  correctness := some correctness
  fault :=
    [{ event := some "fault_injected", time := some 1000, signal := some "SIGKILL"
       selfHealed := none },
      { event := some "recovered", time := some 1020, signal := none, selfHealed := some true }]

/-- All of them landed. -/
def cleanRecovery : RunDir :=
  recoveryOf
    { verdict := some "PASS", landed := some 100, accepted := some 100, delta := some 0
      excessRows := some 0 }

/-- Ten of them did not land, and the gate failed the run. -/
def lossyRecovery : RunDir :=
  recoveryOf
    { verdict := some "FAIL", landed := some 90, accepted := some 100, delta := some (-10)
      excessRows := some 0 }

theorem figuresTrue_iff_cleanRecovery :
    ∃ report, build .binary64 [cleanRecovery] = some report ∧
      (FiguresTrue report ↔
        (∀ r, IsRecoveryRun [cleanRecovery] r → r.Lossless) ∧
        ∀ r, IsStrongestRun .binary64 [cleanRecovery] r →
          r.manifest.totalAccepted = r.manifest.totalOffered) :=
  ⟨_, rfl, figuresTrue_iff .binary64 rfl⟩

/-- **A loss is reported as 0.** -/
theorem not_figuresTrue_lossyRecovery :
    ¬ ∀ (runs : List RunDir) (report : CustomerReport),
        build .binary64 runs = some report → FiguresTrue report := by
  intro h
  have htable := (h [lossyRecovery] _ rfl).table (Recovery.of .binary64 lossyRecovery) rfl
  have hlost : lossyRecovery.lost = 0 := ((tableTrue_iff _).1 htable).lost
  exact absurd hlost (by decide)

end AnalyticsTesting.Bench
