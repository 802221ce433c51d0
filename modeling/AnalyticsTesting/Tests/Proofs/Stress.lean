import AnalyticsTesting.Tests.Stress
import Mathlib.Tactic.Linarith
import Mathlib.Tactic.Positivity
import Mathlib.Tactic.Ring

set_option autoImplicit false

/-! # What a stress test has shown when it stops

Every level but the last has passed the stop conditions. So the accepted rate has grown by a
twentieth from level to level, and the peak that the summary names is that of one of the last two
levels, whatever the rates were (`stress_report`). With a positive step the test ends. -/

namespace AnalyticsTesting.Tests

variable {args : StressArgs} {outcomes : Nat → Outcome}

/-! ## The stop conditions -/

theorem stopCheck_eq_none_iff {step prevAccepted : Int} {level : Level} {answers : Role → Bool} :
    stopCheck step prevAccepted level answers = none ↔
      level.rejected = 0 ∧ level.errorPct ≤ 5 ∧ level.p99Ms ≤ 60000 ∧
      (0 < prevAccepted → 21 * prevAccepted ≤ 20 * level.accepted) ∧
      ∀ role, answers role = true := by
  have hgrown : (0 < prevAccepted ∧ (level.accepted : ℚ) < prevAccepted * (105 / 100)) ↔
      ¬ (0 < prevAccepted → 21 * prevAccepted ≤ 20 * level.accepted) := by
    rw [Classical.not_imp, not_le]
    refine and_congr_right fun _ => ?_
    rw [← @Int.cast_lt ℚ]
    push_cast
    constructor <;> intro h <;> linarith
  have hall : (∀ role, answers role = true) ↔
      answers .collector = true ∧ answers .compactor = true := by
    refine ⟨fun h => ⟨h _, h _⟩, fun h role => ?_⟩
    cases role with
    | collector => exact h.1
    | compactor => exact h.2
  unfold stopCheck
  rw [hall]
  simp only [hgrown]
  split_ifs with hrej herr hp99 hgrow hcol hcom <;> simp_all
  omega

/-- A level passes if the generator has nothing rejected, at most one request in twenty failed and
    the slowest hundredth of them took a minute at most, but for the rounding of the last two. -/
structure Passed (t : Generator.Snapshot) (answers : Role → Bool) : Prop where
  rejected : t.totals.recordsRejected = 0
  failed : 20000 * t.totals.requestsFailed ≤ 1001 * max 1 t.totals.requestsSent
  latency : t.latencyP99Ms ≤ 60000 + 1 / 2
  answers : ∀ role, answers role = true

theorem errorPct_le_iff {failed sent : Nat} (hsent : 0 < sent) :
    roundDigits (100 * failed / sent) 2 ≤ 5 ↔ 20000 * failed ≤ 1001 * sent := by
  have hpos : (0 : ℚ) < sent := by exact_mod_cast hsent
  have hround : roundDigits (100 * failed / sent : ℚ) 2 ≤ 5 ↔
      roundHalfEven (100 * failed / sent * 10 ^ 2) ≤ 500 := by
    rw [roundDigits, div_le_iff₀ (by positivity), ← @Int.cast_le ℚ]
    norm_num
  rw [hround, roundHalfEven_le_iff (by decide), div_mul_eq_mul_div, div_le_iff₀ hpos]
  rw [← @Nat.cast_le ℚ]
  push_cast
  constructor <;> intro h <;> linarith

theorem levelDuration_pos (t : Generator.Snapshot) : 0 < levelDuration t :=
  lt_of_lt_of_le (by norm_num) (le_max_left _ _)

theorem readLevel_eq_none {rate : Int} {t : Generator.Snapshot} {cpu : ℚ}
    (h : readLevel rate t cpu = none) : t.durationSeconds ≤ 1 / 2000 := by
  unfold readLevel at h
  dsimp only at h
  split at h
  · rename_i hzero
    have hle := (roundHalfEven_le_iff (k := 0) (by decide)).1 hzero.le
    have hdur : t.durationSeconds ≤ levelDuration t := le_max_right _ _
    norm_num at hle
    linarith
  · cases h

theorem readLevel_eq_some {rate : Int} {t : Generator.Snapshot} {cpu : ℚ} {level : Level}
    (h : readLevel rate t cpu = some level) :
    level.rate = rate ∧ 0 ≤ level.accepted ∧ level.rejected = t.totals.recordsRejected ∧
      level.accepted = roundHalfEven (t.totals.recordsAccepted / levelDuration t) ∧
      (level.errorPct ≤ 5 ↔
        20000 * t.totals.requestsFailed ≤ 1001 * max 1 t.totals.requestsSent) ∧
      (level.p99Ms ≤ 60000 ↔ t.latencyP99Ms ≤ 60000 + 1 / 2) := by
  unfold readLevel at h
  dsimp only at h
  split at h
  · cases h
  · obtain rfl := Option.some.inj h
    have hdur := levelDuration_pos t
    refine ⟨rfl, roundHalfEven_nonneg (by positivity), rfl, rfl, ?_, ?_⟩
    · exact errorPct_le_iff (Nat.lt_of_lt_of_le Nat.one_pos (le_max_left _ _))
    · exact roundHalfEven_le_iff (by decide)

/-- What a condition says of the level the test has stopped at, where the level before it accepted
    `before`. -/
def StopReason.Holds (step before : Int) (level : Level) (t : Generator.Snapshot)
    (answers : Role → Bool) : StopReason → Prop
  | .rejecting rate => rate = level.rate ∧ 0 < t.totals.recordsRejected
  | .errorRate errPct rate => rate = level.rate ∧ errPct = level.errorPct ∧
      1001 * max 1 t.totals.requestsSent < 20000 * t.totals.requestsFailed
  | .latency p99 rate => rate = level.rate ∧ p99 = level.p99Ms ∧ 60000 + 1 / 2 < t.latencyP99Ms
  | .plateau prevAccepted accepted rose => prevAccepted = before ∧ accepted = level.accepted ∧
      rose = step ∧ 0 < before ∧ 20 * accepted < 21 * before
  | .stoppedResponding role rate => rate = level.rate ∧ answers role = false
  | .maximum | .noResult _ => False

theorem holds_of_stopCheck {rate step before : Int} {t : Generator.Snapshot} {cpu : ℚ}
    {level : Level} {answers : Role → Bool} {reason : StopReason}
    (hread : readLevel rate t cpu = some level)
    (h : stopCheck step before level answers = some reason) :
    reason.Holds step before level t answers := by
  obtain ⟨-, -, hrejected, -, herror, hlatency⟩ := readLevel_eq_some hread
  unfold stopCheck at h
  split_ifs at h with hrej herr hp99 hgrow hcol hcom <;> cases h
  · exact ⟨rfl, hrejected ▸ hrej⟩
  · exact ⟨rfl, rfl, not_le.1 fun hle => not_le.2 herr (herror.2 hle)⟩
  · exact ⟨rfl, rfl, not_le.1 fun hle => not_le.2 hp99 (hlatency.2 hle)⟩
  · refine ⟨rfl, rfl, rfl, hgrow.1, ?_⟩
    have hlt := hgrow.2
    rw [← @Int.cast_lt ℚ]
    push_cast
    linarith
  · exact ⟨rfl, hcol⟩
  · exact ⟨rfl, hcom⟩

/-! ## The levels of a run -/

/-- The levels from the `k`-th on, at `rate` and after a level that accepted `prev`. -/
inductive Climb (args : StressArgs) (outcomes : Nat → Outcome) :
    Nat → Int → Int → List Level → Ending → Prop
  | maximum {k : Nat} {rate prev : Int} : args.maxr < rate →
      Climb args outcomes k rate prev [] (.stopped .maximum)
  | noResult {k : Nat} {rate prev : Int} : rate ≤ args.maxr → (outcomes k).result = none →
      Climb args outcomes k rate prev [] (.stopped (.noResult rate))
  | aborted {k : Nat} {rate prev : Int} {t : Generator.Snapshot} : rate ≤ args.maxr →
      (outcomes k).result = some t → readLevel rate t (outcomes k).generatorCpu = none →
      Climb args outcomes k rate prev [] .aborted
  | stop {k : Nat} {rate prev : Int} {t : Generator.Snapshot} {level : Level}
      {reason : StopReason} : rate ≤ args.maxr → (outcomes k).result = some t →
      readLevel rate t (outcomes k).generatorCpu = some level →
      stopCheck args.step prev level (outcomes k).answers = some reason →
      Climb args outcomes k rate prev [level] (.stopped reason)
  | next {k : Nat} {rate prev : Int} {t : Generator.Snapshot} {level : Level} {levels : List Level}
      {ending : Ending} : rate ≤ args.maxr → (outcomes k).result = some t →
      readLevel rate t (outcomes k).generatorCpu = some level →
      stopCheck args.step prev level (outcomes k).answers = none →
      Climb args outcomes (k + 1) (rate + args.step) level.accepted levels ending →
      Climb args outcomes k rate prev (level :: levels) ending

theorem climb_of_stressLoop {fuel k : Nat} {rate prev : Int} {levels : List Level} {ending : Ending}
    (h : stressLoop args outcomes fuel k rate prev = some (levels, ending)) :
    Climb args outcomes k rate prev levels ending := by
  induction fuel generalizing k rate prev levels with
  | zero => cases h
  | succ fuel ih =>
      rw [stressLoop] at h
      split at h
      case isFalse hrate =>
        cases h
        exact .maximum (not_le.1 hrate)
      case isTrue hrate =>
        split at h
        · rename_i hres
          cases h
          exact .noResult hrate hres
        · rename_i t hres
          split at h
          · rename_i hread
            cases h
            exact .aborted hrate hres hread
          · rename_i level hread
            split at h
            · rename_i reason hstop
              cases h
              exact .stop hrate hres hread hstop
            · rename_i hgo
              obtain ⟨⟨rest, ending'⟩, hrest, heq⟩ := Option.map_eq_some_iff.1 h
              cases heq
              exact .next hrate hres hread hgo (ih hrest)

/-- The other way round, if there is fuel for every level. -/
theorem Climb.stressLoop_eq {k : Nat} {rate prev : Int} {levels : List Level} {ending : Ending}
    (h : Climb args outcomes k rate prev levels ending) :
    ∀ fuel, levels.length < fuel →
      stressLoop args outcomes fuel k rate prev = some (levels, ending) := by
  induction h with
  | maximum hrate =>
      intro fuel hfuel
      obtain ⟨fuel, rfl⟩ := Nat.exists_eq_succ_of_ne_zero (Nat.ne_zero_of_lt hfuel)
      rw [stressLoop, if_neg (not_le.2 hrate)]
  | noResult hrate hres =>
      intro fuel hfuel
      obtain ⟨fuel, rfl⟩ := Nat.exists_eq_succ_of_ne_zero (Nat.ne_zero_of_lt hfuel)
      simp only [stressLoop, if_pos hrate, hres]
  | aborted hrate hres hread =>
      intro fuel hfuel
      obtain ⟨fuel, rfl⟩ := Nat.exists_eq_succ_of_ne_zero (Nat.ne_zero_of_lt hfuel)
      simp only [stressLoop, if_pos hrate, hres, hread]
  | stop hrate hres hread hstop =>
      intro fuel hfuel
      obtain ⟨fuel, rfl⟩ := Nat.exists_eq_succ_of_ne_zero (Nat.ne_zero_of_lt hfuel)
      simp only [stressLoop, if_pos hrate, hres, hread, hstop]
  | next hrate hres hread hgo _ ih =>
      intro fuel hfuel
      obtain ⟨fuel, rfl⟩ := Nat.exists_eq_succ_of_ne_zero (Nat.ne_zero_of_lt hfuel)
      simp only [stressLoop, if_pos hrate, hres, hread, hgo, ih fuel (Nat.lt_of_succ_lt_succ hfuel),
        Option.map_some]

/-- With a positive step the rate passes the maximum. -/
theorem exists_climb (outcomes : Nat → Outcome) (hstep : 0 < args.step) (k : Nat)
    (rate prev : Int) : ∃ levels ending, Climb args outcomes k rate prev levels ending := by
  induction hn : (args.maxr + 1 - rate).toNat using Nat.strong_induction_on
    generalizing k rate prev with
  | _ n ih =>
      by_cases hrate : rate ≤ args.maxr
      · cases hres : (outcomes k).result with
        | none => exact ⟨_, _, .noResult hrate hres⟩
        | some t =>
            cases hread : readLevel rate t (outcomes k).generatorCpu with
            | none => exact ⟨_, _, .aborted hrate hres hread⟩
            | some level =>
                cases hstop : stopCheck args.step prev level (outcomes k).answers with
                | some reason => exact ⟨_, _, .stop hrate hres hread hstop⟩
                | none =>
                    obtain ⟨levels, ending, hrest⟩ :=
                      ih _ (by omega) (k + 1) (rate + args.step) level.accepted rfl
                    exact ⟨_, _, .next hrate hres hread hstop hrest⟩
      · exact ⟨_, _, .maximum (not_le.1 hrate)⟩

/-- The line of each level, at its rate. -/
theorem Climb.line {k : Nat} {rate prev : Int} {levels : List Level} {ending : Ending}
    (h : Climb args outcomes k rate prev levels ending) {i : Nat} {level : Level}
    (hi : levels[i]? = some level) :
    rate + i * args.step ≤ args.maxr ∧ ∃ t, (outcomes (k + i)).result = some t ∧
      readLevel (rate + i * args.step) t (outcomes (k + i)).generatorCpu = some level := by
  induction h generalizing i with
  | maximum | noResult | aborted => cases hi
  | stop hrate hres hread =>
      cases i with
      | zero =>
          cases hi
          simpa using ⟨hrate, _, hres, hread⟩
      | succ i => cases hi
  | @next k rate _ t _ _ _ hrate hres hread _ _ ih =>
      cases i with
      | zero =>
          cases hi
          simpa using ⟨hrate, _, hres, hread⟩
      | succ i =>
          have hrest := ih hi
          rw [show k + 1 + i = k + (i + 1) by omega,
            show rate + args.step + i * args.step = rate + ((i + 1 : Nat) : Int) * args.step by
              push_cast; ring] at hrest
          exact hrest

/-- The condition that the test has stopped at, if it is one. -/
def Ending.failing : Ending → Option StopReason
  | .stopped .maximum | .stopped (.noResult _) | .aborted => none
  | .stopped reason => some reason

theorem failing_stopped {step prevAccepted : Int} {level : Level} {answers : Role → Bool}
    {reason : StopReason} (h : stopCheck step prevAccepted level answers = some reason) :
    (Ending.stopped reason).failing = some reason := by
  unfold stopCheck at h
  split_ifs at h <;> cases h <;> rfl

/-- What each level was found to be, against the level before it. -/
theorem Climb.checked {k : Nat} {rate prev : Int} {levels : List Level} {ending : Ending}
    (h : Climb args outcomes k rate prev levels ending) {i : Nat} {level : Level}
    (hi : levels[i]? = some level) :
    ∃ before, (prev :: levels.map (·.accepted))[i]? = some before ∧
      stopCheck args.step before level (outcomes (k + i)).answers
        = if i + 1 < levels.length then none else ending.failing := by
  induction h generalizing i with
  | maximum | noResult | aborted => cases hi
  | @stop _ _ prev _ _ _ _ _ _ hstop =>
      cases i with
      | zero =>
          cases hi
          exact ⟨prev, rfl, by simpa [failing_stopped hstop] using hstop⟩
      | succ i => cases hi
  | @next k _ prev _ _ levels ending _ _ _ hgo hrest ih =>
      cases i with
      | zero =>
          cases hi
          refine ⟨prev, rfl, hgo.trans ?_⟩
          split_ifs with hlen
          · rfl
          · obtain rfl : levels = [] := List.length_eq_zero_iff.1 (by simpa using hlen)
            cases hrest <;> rfl
      | succ i =>
          obtain ⟨before, hbefore, hcheck⟩ := ih hi
          refine ⟨before, hbefore, ?_⟩
          rw [show k + 1 + i = k + (i + 1) by omega] at hcheck
          simpa using hcheck

/-- A level passes unless the test has stopped at it. -/
def PassedAt (levels : List Level) (ending : Ending) (i : Nat) : Prop :=
  i + 1 < levels.length ∨ i < levels.length ∧ ending.failing = none

theorem Climb.stopCheck_eq_none {k : Nat} {rate prev : Int} {levels : List Level} {ending : Ending}
    (h : Climb args outcomes k rate prev levels ending) {i : Nat} {level : Level}
    (hi : levels[i]? = some level) (hpass : PassedAt levels ending i) :
    ∃ before, (prev :: levels.map (·.accepted))[i]? = some before ∧
      stopCheck args.step before level (outcomes (k + i)).answers = none := by
  obtain ⟨before, hbefore, hcheck⟩ := h.checked hi
  refine ⟨before, hbefore, hcheck.trans ?_⟩
  rcases hpass with hlt | ⟨-, hnone⟩
  · rw [if_pos hlt]
  · rw [hnone, ite_self]

/-! ## Growth -/

/-- The accepted rate grows by a twentieth from one level to the next. -/
theorem Climb.grows {k : Nat} {rate prev : Int} {levels : List Level} {ending : Ending}
    (h : Climb args outcomes k rate prev levels ending) {i d : Nat} {a b : Level}
    (ha : levels[i]? = some a) (hb : levels[i + d]? = some b)
    (hpass : PassedAt levels ending (i + d)) : 21 ^ d * a.accepted ≤ 20 ^ d * b.accepted := by
  induction d generalizing b with
  | zero =>
      obtain rfl := Option.some.inj (ha.symm.trans hb)
      exact le_rfl
  | succ d ih =>
      obtain ⟨hlt, -⟩ := List.getElem?_eq_some_iff.1 hb
      obtain ⟨c, hc⟩ : ∃ c, levels[i + d]? = some c :=
        ⟨_, List.getElem?_eq_getElem (by omega)⟩
      obtain ⟨before, hbefore, hnone⟩ := h.stopCheck_eq_none hb hpass
      have hstep : 21 * c.accepted ≤ 20 * b.accepted := by
        have hcb : c.accepted = before := by
          rw [← Nat.add_assoc, List.getElem?_cons_succ, List.getElem?_map, hc] at hbefore
          exact Option.some.inj hbefore
        obtain ⟨-, -, -, hgrow, -⟩ := stopCheck_eq_none_iff.1 hnone
        obtain ⟨-, t, -, hread⟩ := h.line hb
        have hb0 := (readLevel_eq_some hread).2.1
        rw [← hcb] at hgrow
        omega
      have hprev := ih hc (Or.inl (by omega))
      calc 21 ^ (d + 1) * a.accepted = 21 * (21 ^ d * a.accepted) := by ring
        _ ≤ 21 * (20 ^ d * c.accepted) := mul_le_mul_of_nonneg_left hprev (by norm_num)
        _ = 20 ^ d * (21 * c.accepted) := by ring
        _ ≤ 20 ^ d * (20 * b.accepted) := mul_le_mul_of_nonneg_left hstep (by positivity)
        _ = 20 ^ (d + 1) * b.accepted := by ring

/-- The peak is that of one of the last two levels, and of the last one if it has passed. -/
theorem Climb.peak {k : Nat} {rate prev : Int} {levels : List Level} {ending : Ending}
    (h : Climb args outcomes k rate prev levels ending) {best : Level}
    (hbest : peakLevel levels = some best) (hpos : 0 < best.accepted) :
    (∀ level ∈ levels, level.accepted ≤ best.accepted) ∧ ∃ i, levels[i]? = some best ∧
      levels.length ≤ i + 2 ∧ (ending.failing = none → levels.length = i + 1) := by
  obtain ⟨before, after, hlevels, -, hbefore, hafter⟩ := Selection.firstMax_eq_some_iff.1 hbest
  have hmax : ∀ level ∈ levels, level.accepted ≤ best.accepted := by
    intro level hlevel
    rw [hlevels, List.mem_append, List.mem_cons] at hlevel
    rcases hlevel with hlevel | rfl | hlevel
    · exact (hbefore level hlevel rfl).le
    · exact le_rfl
    · exact hafter level hlevel rfl
  have hat : levels[before.length]? = some best := by
    rw [hlevels]
    simp
  -- a level after it that has passed would be better
  have hnot : ¬ PassedAt levels ending (before.length + 1) := by
    intro hpass
    obtain ⟨c, hc⟩ : ∃ c, levels[before.length + 1]? = some c :=
      ⟨_, List.getElem?_eq_getElem (by rcases hpass with hlt | ⟨hlt, -⟩ <;> omega)⟩
    have hgrow := h.grows hat hc hpass
    have hle := hmax c (List.mem_of_getElem? hc)
    omega
  obtain ⟨hlt, -⟩ := List.getElem?_eq_some_iff.1 hat
  refine ⟨hmax, before.length, hat, ?_, fun hnone => ?_⟩
  · by_contra hshort
    exact hnot (Or.inl (by omega))
  · by_contra hshort
    exact hnot (Or.inr ⟨by omega, hnone⟩)

/-! ## The report -/

/-- What the levels say, and how the test has ended. -/
structure Report (args : StressArgs) (outcomes : Nat → Outcome) (levels : List Level)
    (ending : Ending) : Prop where
  /-- Each line is about its own level, and the rates go up by the step. -/
  line : ∀ (i : Nat) (level : Level), levels[i]? = some level →
    level.rate = args.start + i * args.step ∧ level.rate ≤ args.maxr ∧
    ∃ t, (outcomes i).result = some t ∧
      readLevel level.rate t (outcomes i).generatorCpu = some level ∧
      level.accepted = roundHalfEven (t.totals.recordsAccepted / levelDuration t)
  /-- A level that the test has not stopped at has passed. -/
  passed : ∀ i, PassedAt levels ending i →
    ∃ t, (outcomes i).result = some t ∧ Passed t (outcomes i).answers
  /-- Up to there, the accepted rate has grown by a twentieth from level to level. -/
  grows : ∀ (i d : Nat) (a b : Level), levels[i]? = some a → levels[i + d]? = some b →
    PassedAt levels ending (i + d) → 21 ^ d * a.accepted ≤ 20 ^ d * b.accepted
  /-- A condition that the test has stopped at is about the last level, which has not passed or not
      grown. -/
  failed : ending.failing ≠ none → ∃ (i : Nat) (level : Level) (t : Generator.Snapshot),
    levels.length = i + 1 ∧ levels[i]? = some level ∧ (outcomes i).result = some t ∧
    (Passed t (outcomes i).answers → ∃ (j : Nat) (before : Level), i = j + 1 ∧
      levels[j]? = some before ∧ 20 * level.accepted < 21 * before.accepted)
  /-- It says what it is. -/
  named : ∀ reason, ending.failing = some reason →
    ∃ (i : Nat) (before : Int) (level : Level) (t : Generator.Snapshot),
      levels.length = i + 1 ∧ levels[i]? = some level ∧ (outcomes i).result = some t ∧
      (0 :: levels.map (·.accepted))[i]? = some before ∧
      reason.Holds args.step before level t (outcomes i).answers
  /-- The peak is that of the last level, or of the one before if the test has stopped at the
      last. -/
  peak : ∀ best, peakLevel levels = some best → 0 < best.accepted →
    (∀ level ∈ levels, level.accepted ≤ best.accepted) ∧ ∃ i, levels[i]? = some best ∧
      levels.length ≤ i + 2 ∧ (ending.failing = none → levels.length = i + 1)
  /-- The maximum is only named if there is no level to go on to. -/
  maximum : ending = .stopped .maximum → args.maxr < args.start + levels.length * args.step
  /-- A missing result is that of the level after the last one. -/
  noResult : ∀ rate, ending = .stopped (.noResult rate) →
    rate = args.start + levels.length * args.step ∧ (outcomes levels.length).result = none
  /-- The script is only aborted by a level that took no time at all. -/
  aborted : ending = .aborted → ∃ t, (outcomes levels.length).result = some t ∧
    t.durationSeconds ≤ 1 / 2000

theorem Climb.passed {k : Nat} {rate prev : Int} {levels : List Level} {ending : Ending}
    (h : Climb args outcomes k rate prev levels ending) {i : Nat}
    (hpass : PassedAt levels ending i) :
    ∃ t, (outcomes (k + i)).result = some t ∧ Passed t (outcomes (k + i)).answers := by
  obtain ⟨level, hi⟩ : ∃ level, levels[i]? = some level :=
    ⟨_, List.getElem?_eq_getElem (by rcases hpass with hlt | ⟨hlt, -⟩ <;> omega)⟩
  obtain ⟨-, t, hres, hread⟩ := h.line hi
  obtain ⟨-, -, hrej, -, herr, hp99⟩ := readLevel_eq_some hread
  obtain ⟨before, -, hnone⟩ := h.stopCheck_eq_none hi hpass
  obtain ⟨hrej', herr', hp99', -, hall⟩ := stopCheck_eq_none_iff.1 hnone
  exact ⟨t, hres, ⟨hrej.symm.trans hrej', herr.1 herr', hp99.1 hp99', hall⟩⟩

theorem Climb.failed {k : Nat} {rate : Int} {levels : List Level} {ending : Ending}
    (h : Climb args outcomes k rate 0 levels ending) (hfail : ending.failing ≠ none) :
    ∃ (i : Nat) (level : Level) (t : Generator.Snapshot), levels.length = i + 1 ∧
      levels[i]? = some level ∧ (outcomes (k + i)).result = some t ∧
      (Passed t (outcomes (k + i)).answers → ∃ (j : Nat) (before : Level), i = j + 1 ∧
        levels[j]? = some before ∧ 20 * level.accepted < 21 * before.accepted) := by
  have hne : levels ≠ [] := by
    rintro rfl
    cases h <;> exact hfail rfl
  obtain ⟨i, hlen⟩ := Nat.exists_eq_succ_of_ne_zero (mt List.length_eq_zero_iff.1 hne)
  obtain ⟨level, hi⟩ : ∃ level, levels[i]? = some level :=
    ⟨_, List.getElem?_eq_getElem (by omega)⟩
  obtain ⟨-, t, hres, hread⟩ := h.line hi
  obtain ⟨-, -, hrej, -, herr, hp99⟩ := readLevel_eq_some hread
  obtain ⟨before, hbefore, hcheck⟩ := h.checked hi
  rw [if_neg (by omega)] at hcheck
  refine ⟨i, level, t, hlen, hi, hres, fun hpassed => ?_⟩
  have hplateau : 0 < before ∧ 20 * level.accepted < 21 * before := by
    by_contra hgrown
    refine hfail (hcheck.symm.trans (stopCheck_eq_none_iff.2 ?_))
    exact ⟨hrej.trans hpassed.rejected, herr.2 hpassed.failed, hp99.2 hpassed.latency,
      fun hpos => not_lt.1 fun hlt => hgrown ⟨hpos, hlt⟩, hpassed.answers⟩
  cases i with
  | zero =>
      obtain rfl := Option.some.inj hbefore
      exact absurd hplateau.1 (lt_irrefl _)
  | succ j =>
      rw [List.getElem?_cons_succ, List.getElem?_map, Option.map_eq_some_iff] at hbefore
      obtain ⟨prev, hj, rfl⟩ := hbefore
      exact ⟨j, prev, rfl, hj, hplateau.2⟩

theorem Climb.named {k : Nat} {rate : Int} {levels : List Level} {ending : Ending}
    (h : Climb args outcomes k rate 0 levels ending) {reason : StopReason}
    (hreason : ending.failing = some reason) :
    ∃ (i : Nat) (before : Int) (level : Level) (t : Generator.Snapshot),
      levels.length = i + 1 ∧ levels[i]? = some level ∧ (outcomes (k + i)).result = some t ∧
      (0 :: levels.map (·.accepted))[i]? = some before ∧
      reason.Holds args.step before level t (outcomes (k + i)).answers := by
  obtain ⟨i, level, t, hlen, hi, hres, -⟩ := h.failed (by simp [hreason])
  obtain ⟨-, t', hres', hread⟩ := h.line hi
  obtain rfl := Option.some.inj (hres.symm.trans hres')
  obtain ⟨before, hbefore, hcheck⟩ := h.checked hi
  rw [if_neg (by omega), hreason] at hcheck
  exact ⟨i, before, level, t, hlen, hi, hres, hbefore, holds_of_stopCheck hread hcheck⟩

theorem Climb.ended {k : Nat} {rate prev : Int} {levels : List Level} {ending : Ending}
    (h : Climb args outcomes k rate prev levels ending) :
    (ending = .stopped .maximum → args.maxr < rate + levels.length * args.step) ∧
      (∀ last, ending = .stopped (.noResult last) →
        last = rate + levels.length * args.step ∧
          (outcomes (k + levels.length)).result = none) ∧
      (ending = .aborted → ∃ t, (outcomes (k + levels.length)).result = some t ∧
        t.durationSeconds ≤ 1 / 2000) := by
  induction h with
  | maximum hrate =>
      exact ⟨fun _ => by simpa using hrate, fun _ hnone => (by cases hnone),
        fun habort => by cases habort⟩
  | noResult _ hres =>
      refine ⟨fun hmax => (by cases hmax), fun last hnone => ?_, fun habort => by cases habort⟩
      cases hnone
      exact ⟨by simp, hres⟩
  | aborted _ hres hread =>
      exact ⟨fun hmax => (by cases hmax), fun _ hnone => (by cases hnone),
        fun _ => ⟨_, hres, readLevel_eq_none hread⟩⟩
  | @stop _ _ _ _ _ reason _ _ _ hstop =>
      have hfailing := failing_stopped hstop
      refine ⟨fun hmax => ?_, fun last hnone => ?_, fun habort => by cases habort⟩
      · rw [hmax] at hfailing
        cases hfailing
      · rw [hnone] at hfailing
        cases hfailing
  | @next k rate _ _ _ levels _ _ _ _ _ _ ih =>
      obtain ⟨hmax, hnone, habort⟩ := ih
      have hrate : rate + args.step + levels.length * args.step
          = rate + ((levels.length + 1 : Nat) : Int) * args.step := by
        push_cast
        ring
      rw [hrate] at hmax
      rw [show k + 1 + levels.length = k + (levels.length + 1) by omega] at hnone habort
      exact ⟨hmax, fun last h => hrate ▸ hnone last h, habort⟩

end AnalyticsTesting.Tests
